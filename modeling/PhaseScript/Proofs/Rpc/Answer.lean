import PhaseScript.Proofs.Rpc.Request
/-
What comes back of a call to the storage: each of its answers is read by the caller as it was meant
by the service.
-/
set_option autoImplicit false

namespace PhaseScript.Rpc

open Service (Outgoing answerWith)

/-- A table whose keys and values are made of scalar values. -/
def ScalarTable (table : Table Text) : Prop := ∀ entry ∈ table, entry.1.isScalar = true ∧
    entry.2.isScalar = true

namespace ScalarTable

variable {table : Table Text} (scalar : ScalarTable table)

include scalar

theorem lookup (key : Text) : Text.ScalarIfAny (table.lookup key) :=
  fun v found => (scalar _ (Table.mem_of_lookup table key v found)).2

theorem filter (keep : Text × Text → Bool) : ScalarTable (table.filter keep) :=
  fun entry among => scalar entry (List.mem_of_mem_filter among)

theorem put (key kept : Text) (keys : key.isScalar = true) (keeps : kept.isScalar = true) :
    ScalarTable (table.put key kept) := by
  intro entry among
  obtain rfl | inside := Table.mem_put table key kept entry among
  · exact ⟨keys, keeps⟩
  · exact scalar entry inside

end ScalarTable

/-- An entry as it stands in an answer. -/
def entryJson (entry : Text × Text) : Json := .object [("key", .string entry.1),
    ("value", .string entry.2)]

def gotJson (key : Text) (found : Option Text) : List (Text × Json) :=
  [("value", optionalJson found), ("key", .string key)]

def confirmedJson (key kept : Text) (before : Option Text) : List (Text × Json) :=
  [("key", .string key), ("value", .string kept),
  ("previous", (before.map fun v => entryJson (key, v)).getD .null)]

def foundJson (entries : Table Text) : List (Text × Json) :=
    [("value", .array (entries.map entryJson))]

def refusedJson (description : Text) : List (Text × Json) :=
  [("error", .string "invalid_pattern"), ("error_description", .string description)]

/-- A value that comes back as it was from the body of an answer, with some room for what lies
inside each other. -/
def Echoed (room : Nat) (v : Json) : Prop := Json.Held room v ∧ v.Proper

theorem echoed_string (room : Nat) (t : Text) (scalar : t.isScalar = true) :
    Echoed room (.string t) :=
  ⟨⟨trivial, Nat.zero_le room⟩, scalar⟩

theorem echoed_optionalJson (room : Nat) (t : Option Text) (scalar : Text.ScalarIfAny t) :
    Echoed room (optionalJson t) := by
  cases t with
  | none => exact ⟨⟨trivial, Nat.zero_le room⟩, trivial⟩
  | some s => exact echoed_string room s (scalar s rfl)

theorem echoed_array (room : Nat) (items : List Json) (all : ∀ item ∈ items, Echoed room item) :
    Echoed (room + 1) (.array items) := by
  refine ⟨Json.held_array room items fun item among => (all item among).1, ?_⟩
  rw [Json.Proper]
  induction items with
  | nil => trivial
  | cons item items ih =>
    exact ⟨(all item List.mem_cons_self).2, ih fun other among =>
      all other (List.mem_cons_of_mem item among)⟩

theorem echoed_object (room : Nat) (members : List (Text × Json))
    (distinct : (members.map (·.1)).Nodup) (all : ∀ member ∈ members, member.1.isScalar = true ∧
    Echoed room member.2) :
    Echoed (room + 1) (.object members) := by
  refine ⟨Json.held_object room members (fun member among => (all member among).2.1) distinct, ?_⟩
  rw [Json.Proper]
  clear distinct
  induction members with
  | nil => trivial
  | cons member members ih =>
    obtain ⟨scalar, _, proper⟩ := all member List.mem_cons_self
    exact ⟨scalar, proper, ih fun other among => all other (List.mem_cons_of_mem member among)⟩

theorem echoed_entry (room : Nat) (entry : Text × Text) (keys : entry.1.isScalar = true)
    (values : entry.2.isScalar = true) : Echoed (room + 1) (entryJson entry) := by
  refine echoed_object room _ (by simp only [List.map_cons, List.map_nil]; decide) ?_
  simp only [List.forall_mem_cons]
  exact ⟨⟨rfl, echoed_string room _ keys⟩, ⟨rfl, echoed_string room _ values⟩, fun _ among =>
    nomatch among⟩

theorem echoed_got (room : Nat) (key : Text) (found : Option Text) (keys : key.isScalar = true)
    (values : Text.ScalarIfAny found) : Echoed (room + 1) (.object (gotJson key found)) := by
  refine echoed_object room _ (by simp only [gotJson, List.map_cons, List.map_nil]; decide) ?_
  simp only [gotJson, List.forall_mem_cons]
  exact ⟨⟨rfl, echoed_optionalJson room _ values⟩, ⟨rfl, echoed_string room _ keys⟩, fun _ among =>
    nomatch among⟩

theorem echoed_confirmed (room : Nat) (key kept : Text) (before : Option Text)
    (keys : key.isScalar = true) (keeps : kept.isScalar = true) (values : Text.ScalarIfAny before) :
    Echoed (room + 2) (.object (confirmedJson key kept before)) := by
  have previous : Echoed (room + 1) ((before.map fun v => entryJson (key, v)).getD .null) := by
    cases before with
    | none => exact ⟨⟨trivial, Nat.zero_le _⟩, trivial⟩
    | some v => exact echoed_entry room (key, v) keys (values v rfl)
  refine echoed_object
    (room + 1) _ (by simp only [confirmedJson, List.map_cons, List.map_nil]; decide) ?_
  simp only [confirmedJson, List.forall_mem_cons]
  exact ⟨⟨rfl, echoed_string _ _ keys⟩, ⟨rfl, echoed_string _ _ keeps⟩, ⟨rfl, previous⟩,
    fun _ among => nomatch among⟩

theorem echoed_found (room : Nat) (entries : Table Text) (scalar : ScalarTable entries) :
    Echoed (room + 3) (.object (foundJson entries)) := by
  have all : Echoed (room + 2) (.array (entries.map entryJson)) := by
    refine echoed_array (room + 1) _ fun item among => ?_
    obtain ⟨entry, inside, rfl⟩ := List.mem_map.mp among
    exact echoed_entry room entry (scalar entry inside).1 (scalar entry inside).2
  refine echoed_object (room + 2) _ (by simp only [foundJson, List.map_cons, List.map_nil]; decide)
    ?_
  simp only [foundJson, List.forall_mem_cons]
  exact ⟨⟨rfl, all⟩, fun _ among => nomatch among⟩

theorem echoed_refused (room : Nat) (description : Text) (scalar : description.isScalar = true) :
    Echoed (room + 1) (.object (refusedJson description)) := by
  refine echoed_object room _ (by simp only [refusedJson, List.map_cons, List.map_nil]; decide) ?_
  simp only [refusedJson, List.forall_mem_cons]
  exact ⟨⟨rfl, echoed_string room _ rfl⟩, ⟨rfl, echoed_string room _ scalar⟩, fun _ among =>
    nomatch among⟩

/-- What comes back as it was stands in the body of an answer. -/
theorem answerWith_ofJson (status : Nat) (v : Json) (echoed : Echoed Json.maxDepth v) :
    answerWith status (Datum.ofJson v) = .ok (.ofJson status v) := by
  obtain ⟨held, proper⟩ := echoed
  have written := Json.writeFault?_of_limited v held.1 proper
  refine Service.answerWith_of_toJson status _ v ?_ (Datum.toJson_ofJson _ v written)
    (Json.characters_of_proper v proper)
  rw [Datum.depth_ofJson]
  exact held.2

/-- A response with an object as its body, as it comes to the caller. -/
theorem answerMembers_ofJson (status : Nat) (members : List (Text × Json))
    (echoed : Echoed Json.maxDepth (.object members)) :
    answerMembers (Outgoing.ofJson status (.object members)).response =
    .ok (Datum.ofJsonMembers members) := by
  obtain ⟨held, proper⟩ := echoed
  have read := Json.read_render_of_limited .compact Json.Style.compact_lawful (.object members)
    held.1 proper held.2
  have some_ : (Json.render .compact (.object members)).isEmpty = false := by cases members <;> rfl
  have text : (Outgoing.ofJson status (.object members)).response.text =
    Json.render .compact (.object members) := rfl
  rw [answerMembers, text, some_, if_neg Bool.false_ne_true, Http.Response.json, text, read]

section Asking

variable {channel : Channel} {operation : Text} {key value options : Datum}
  {exchange next : Http.Exchange} {response : Http.Response} {members : List (Datum × Datum)}
  (posted : channel.post storagePath [("operation", .text operation), ("key", key),
    ("value", value), ("opts", options)] exchange = .ok response next)

include posted

section Readable

variable (read : answerMembers response = .ok members)

include read

/-- An answer that tells of success gives its members. -/
theorem ask_success (success : isStorageSuccess response.status = true) :
    channel.ask operation key value options exchange = .ok members next := by
  simp only [Channel.ask, bind, EStateM.bind, posted, read, success, pure, EStateM.pure,
    Bool.not_true, Bool.false_eq_true, if_false]

/-- Any other answer is the failure that it names. -/
theorem ask_refused (refused : isStorageSuccess response.status = false) (message : Text)
    (shown : Http.shownText ((Datum.entry members "error").orElse
      (.text ("storage rpc failed with status " ++ Text.ofInt response.status))) = .ok message) :
    channel.ask operation key value options exchange =
      .error (failure .storageError message (Datum.entry members "error_description")
        response.status) next := by
  simp only [Channel.ask, bind, EStateM.bind, posted, read, refused, pure, EStateM.pure,
    Bool.not_false, if_true, shown]
  rfl

end Readable

section Unreadable

variable {refusal : Json.Refusal} (read : answerMembers response = .error refusal)

include read

/-- An answer that is too deep to be read fails as its reader does. -/
theorem ask_tooDeep (deep : refusal.isOfValue = false) :
    channel.ask operation key value options exchange =
      .error (.of refusal.kind (refusal.message response.text)) next := by
  simp only [Channel.ask, bind, EStateM.bind, posted, read, deep, Bool.not_false, if_true]
  rfl

/-- An answer that tells of success must be readable. -/
theorem ask_unreadable (ofValue : refusal.isOfValue = true)
    (success : isStorageSuccess response.status = true) :
    channel.ask operation key value options exchange =
      .error (failure .storageError
        ("invalid storage response: " ++ refusal.message response.text) .none response.status)
        next := by
  simp only [Channel.ask, bind, EStateM.bind, posted, read, ofValue, success, Bool.not_true,
    Bool.false_eq_true, if_false, if_true]
  rfl

/-- What any other answer says does not matter when it cannot be read. -/
theorem ask_refused_unreadable (ofValue : refusal.isOfValue = true)
    (refused : isStorageSuccess response.status = false) :
    channel.ask operation key value options exchange =
      .error (failure .storageError
        ("storage rpc failed with status " ++ Text.ofInt response.status) .none response.status)
        next := by
  simp only [Channel.ask, bind, EStateM.bind, posted, read, ofValue, refused, Bool.not_true,
    Bool.not_false, Bool.false_eq_true, if_false, if_true, pure, EStateM.pure]
  rfl

end Unreadable

end Asking

end PhaseScript.Rpc
