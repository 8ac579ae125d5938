import PhaseScript.Service.Routes
/-
Where paths lead. The fixed paths and those of the plugins end differently, so none is taken for
another, wherever the service puts its own.
-/
set_option autoImplicit false

namespace PhaseScript.Service

/-- A path is not taken for a fixed one that ends in another character. -/
theorem other_end {path known : Text} {p q : Point} (ends : path.getLast? = some p)
    (ends' : known.getLast? = some q) (apart : p ≠ q) (inLine : p ≠ Point.ofChar '\n') :
    ¬ (path == known || path == known ++ [Point.ofChar '\n']) = true := by
  rw [Bool.or_eq_true, beq_iff_eq, beq_iff_eq]
  rintro (rfl | rfl)
  · exact apart (Option.some.inj (ends.symm.trans ends'))
  · rw [List.getLast?_concat] at ends
    exact inLine (Option.some.inj ends).symm

theorem getLast?_beside {start rest : Text} {p : Point} (ends : rest.getLast? = some p) :
    (start ++ rest).getLast? = some p := by
  rw [List.getLast?_append, ends, Option.some_or]

variable (apiRoot : Text)

theorem endpoint?_of_at {path : Text} {endpoint : Endpoint}
    (found : endpointAt? apiRoot path = some endpoint) :
    endpoint? apiRoot path = some endpoint := by
  rw [endpoint?, found, Option.some_or]

theorem endpoint?_logger : endpoint? apiRoot Rpc.loggerPath = some .logger := by
  have ends : Rpc.loggerPath.getLast? = some (Point.ofChar 'c') := by decide
  refine endpoint?_of_at apiRoot ?_
  simp only [endpointAt?]
  rw [if_neg (other_end ends (getLast?_beside (by decide)) (q := Point.ofChar '/')
      (by decide) (by decide)),
    if_neg (other_end ends (getLast?_beside (by decide)) (q := Point.ofChar '/')
      (by decide) (by decide)), if_pos (by decide)]

theorem endpoint?_storage : endpoint? apiRoot Rpc.storagePath = some .storage := by
  have ends : Rpc.storagePath.getLast? = some (Point.ofChar 'c') := by decide
  refine endpoint?_of_at apiRoot ?_
  simp only [endpointAt?]
  rw [if_neg (other_end ends (getLast?_beside (by decide)) (q := Point.ofChar '/')
      (by decide) (by decide)),
    if_neg (other_end ends (getLast?_beside (by decide)) (q := Point.ofChar '/')
      (by decide) (by decide)), if_neg (by decide), if_pos (by decide)]

/-- The path on which a plugin is run for a phase. -/
def pluginPath (phase : Phase) : Text := apiRoot ++ "/plugins/" ++ Text.ofString phase.name

theorem endpoint?_plugin (phase : Phase) : endpoint? apiRoot (pluginPath apiRoot phase) =
    some (.plugin (Text.ofString phase.name)) := by
  -- The other paths end in a slash or in the c of rpc; no name of a phase does.
  obtain ⟨p, ends, line, slash, c⟩ : ∃ p, (Text.ofString phase.name).getLast? = some p ∧
      p ≠ Point.ofChar '\n' ∧ p ≠ Point.ofChar '/' ∧ p ≠ Point.ofChar 'c' := by
    cases phase <;> exact ⟨_, rfl, by decide, by decide, by decide⟩
  have ends : (pluginPath apiRoot phase).getLast? = some p := getLast?_beside ends
  have proper : ¬ ((Text.ofString phase.name).isEmpty ||
      (Text.ofString phase.name).any (·.is '/')) = true := by
    cases phase <;> decide
  have starts : Text.startsWith (pluginPath apiRoot phase) (apiRoot ++ "/plugins/") = true :=
    List.isPrefixOf_iff_prefix.mpr (List.prefix_append _ _)
  refine endpoint?_of_at apiRoot ?_
  simp only [endpointAt?]
  rw [if_neg (other_end ends (getLast?_beside (by decide)) slash line),
    if_neg (other_end ends (getLast?_beside (by decide)) slash line),
    if_neg (other_end ends (by decide) c line),
    if_neg (other_end ends (by decide) c line), if_pos starts, pluginPath,
    List.drop_left, if_neg proper]

section CarryOut

variable {σ : Type} (service : Service σ) (run : PluginRunner σ) (request : Incoming)

/-- A request by the wrong method comes to nothing. -/
theorem carryOut_wrongMethod (run : Option (PluginRunner σ)) (endpoint : Endpoint)
    (found : endpoint? service.apiRoot request.path = some endpoint)
    (wrong : request.method ≠ endpoint.method) :
    service.carryOut run request = throw .wrongMethod := by
  simp only [carryOut, found]
  rw [if_pos (bne_iff_ne.mpr wrong)]

theorem not_wrong (endpoint : Endpoint) (right : request.method = endpoint.method) :
    ¬ (request.method != endpoint.method) = true := by
  rw [right, bne_self_eq_false]
  exact Bool.false_ne_true

theorem carryOut_plugin {name : Text}
    (found : endpoint? service.apiRoot request.path = some (.plugin name))
    (posted : request.method = "POST") :
    service.carryOut (some run) request = answerPlugin run name request.body := by
  simp only [carryOut, found]
  rw [if_neg (not_wrong request (.plugin name) posted)]

variable (run : Option (PluginRunner σ))

theorem carryOut_logger (found : endpoint? service.apiRoot request.path = some .logger)
    (posted : request.method = "POST") : service.carryOut run request = answerLogger request := by
  simp only [carryOut, found]
  rw [if_neg (not_wrong request .logger posted)]

theorem carryOut_storage (found : endpoint? service.apiRoot request.path = some .storage)
    (posted : request.method = "POST") :
    service.carryOut run request = service.answerStorage request := by
  simp only [carryOut, found]
  rw [if_neg (not_wrong request .storage posted)]

variable {service run request} {s after : ServiceState σ}

theorem answer_of_ok {answer : Outgoing}
    (ran : service.carryOut run request s = .ok answer after) :
    service.answer run request s = (answer.forMethod request.method, after) := by
  rw [Service.answer, ran]

theorem answer_of_error {problem : Problem}
    (ran : service.carryOut run request s = .error problem after) :
    service.answer run request s =
      ((problem.answer request.path service.tellsFailures).forMethod request.method, after) := by
  rw [answer, ran]

end CarryOut

end PhaseScript.Service
