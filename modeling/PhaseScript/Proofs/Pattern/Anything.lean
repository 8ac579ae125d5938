import PhaseScript.Pattern.Search
/-
The pattern that every key matches: any characters, however many, none among them.
-/
set_option autoImplicit false

namespace PhaseScript.Pattern

/-- Whether what was read is the pattern of any characters, however many. -/
def isAnything : Except Fault Pattern → Bool
  | .ok ⟨[.repeated .greedy 0 none [.any false]], width, true⟩ => width.least == 0
  | _ => false

theorem eq_anything (read : Except Fault Pattern) (shape : isAnything read = true) :
    ∃ width : Width, width.least = 0 ∧ read = .ok ⟨[.repeated .greedy 0 none [.any false]], width,
    true⟩ := by
  unfold isAnything at shape
  split at shape
  · next width => exact ⟨width, beq_iff_eq.mp shape, rfl⟩
  · cases shape

theorem ofText_anything : ∃ width : Width, width.least = 0 ∧
    Pattern.ofText ".*" = .ok ⟨[.repeated .greedy 0 none [.any false]], width, true⟩ :=
  eq_anything _ (by decide +kernel)

/-- What follows is found after some of the characters if it is found after as many of them. -/
theorem isFound_giveBack {next : Nat → Wake → Outcome} {found : Nat → Bool}
    (finds : ∀ place wake, (next place wake).isFound = found place) (inTurn : Bool) (least : Nat)
    (earlier : Wake) (count : Nat) (wake : Wake) :
    (giveBack inTurn (fun _ => true) next least earlier count wake).isFound = true ↔
      ∃ n ≤ count, found (least + n) = true := by
  induction count generalizing wake with
  | zero =>
    rw [giveBack, if_pos rfl, finds]
    simp only [Nat.le_zero, exists_eq_left, Nat.add_zero]
  | succ count ih =>
    simp only [giveBack, if_true, finds]
    split
    · next here => exact iff_of_true (finds _ _ ▸ here) ⟨count + 1, Nat.le_refl _, here⟩
    · next away =>
      rw [ih]
      constructor
      · exact fun ⟨n, few, here⟩ => ⟨n, Nat.le_succ_of_le few, here⟩
      · rintro ⟨n, few, here⟩
        refine ⟨n, Nat.le_of_lt_succ (Nat.lt_of_le_of_ne few ?_), here⟩
        rintro rfl
        exact away here

/-- Any characters are found at once, with none of them if need be. -/
theorem follow_anything (text : Array Point) (fuel : Nat) (wake : Wake) :
    (follow text (fuel + 2) false [.letters .greedy 0 none (.any false)] 0 wake arrive).isFound =
    true := by
  have onward : ∀ place wake, (follow text (fuel + 1) false [] place wake arrive).isFound = true :=
      fun place wake => by
    rw [follow]
    rfl
  rw [follow]
  simp only [Nat.not_lt_zero, if_false]
  exact (isFound_giveBack onward _ _ _ _ _).mpr ⟨0, Nat.zero_le _, rfl⟩

theorem occursIn_anything (width : Width) (least : width.least = 0) (t : Text) :
    occursIn ⟨[.repeated .greedy 0 none [.any false]], width, true⟩ t = true := by
  have places : startingPlaces ⟨[.repeated .greedy 0 none [.any false]], width, true⟩
        t.toArray.size =
      List.range (t.toArray.size + 1) := by
    simp only [startingPlaces, least, Nat.not_lt_zero, if_false, Nat.zero_le, decide_true,
      Bool.true_or, if_true]
  have enough : endurance = 999999999998 + 2 := rfl
  rw [occursIn, places, List.any_eq_true]
  refine ⟨0, List.mem_range.mpr (Nat.succ_pos _), ?_⟩
  rw [enough]
  exact follow_anything t.toArray _ _

end PhaseScript.Pattern
