import Mathlib.Data.List.Chain
import PhaseScript.Proofs.Text.Digits
/-
Texts in quotes. Each point stands in quotes as itself or as an escape; what comes back from quotes
is the text itself, except that the escapes of the two halves of a surrogate pair give one point.
-/
set_option autoImplicit false

namespace PhaseScript

namespace Json

/-- The point of two halves of a surrogate pair. -/
def joined (high low : Point) : Point := Point.ofNat (0x10000 + (high.val - 0xD800) * 1024 +
    (low.val - 0xDC00))

/-- The text with the two halves of each surrogate pair as one point. -/
def joinHalves : Text → Text
  | p :: q :: rest =>
    if p.isHigh && q.isLow then joined p q :: joinHalves rest else p :: joinHalves (q :: rest)
  | [p] => [p]
  | [] => []

/-- A text as it comes back from quotes. -/
def rereadText (ascii : Bool) (t : Text) : Text := if ascii then joinHalves t else t

end Json

namespace Text

/-- No two halves of a surrogate pair stand side by side. -/
def Joined (t : Text) : Prop := List.IsChain (fun p q => (p.isHigh && q.isLow) = false) t

theorem joined_of_scalar (t : Text) (scalar : t.isScalar = true) : t.Joined := by
  induction t with
  | nil => exact .nil
  | cons p t ih =>
    have single := List.all_eq_true.mp scalar p List.mem_cons_self
    have others : Text.isScalar t = true :=
      List.all_eq_true.mpr fun r member => List.all_eq_true.mp scalar r
        (List.mem_cons_of_mem p member)
    refine List.isChain_cons.mpr ⟨fun q _ => ?_, ih others⟩
    simp only [Point.isSurrogate, Bool.not_eq_true', Bool.and_eq_false_iff,
      decide_eq_false_iff_not] at single
    have notHigh : p.isHigh = false := by
      simp only [Point.isHigh, Bool.and_eq_false_iff, decide_eq_false_iff_not]
      omega
    rw [notHigh, Bool.false_and]

end Text

namespace Json

/-- Joined texts come back as they were. -/
theorem joinHalves_of_joined (t : Text) (isJoined : t.Joined) : joinHalves t = t := by
  induction t using joinHalves.induct with
  | case1 p q rest pair _ =>
    cases pair.symm.trans (List.isChain_cons_cons.mp isJoined).1
  | case2 p q rest pair ih =>
    rw [joinHalves, if_neg pair, ih (List.isChain_cons_cons.mp isJoined).2]
  | case3 p => rfl
  | case4 => rfl

theorem rereadText_of_joined (ascii : Bool) (t : Text) (isJoined : t.Joined) :
    rereadText ascii t = t := by
  unfold rereadText
  split
  · exact joinHalves_of_joined t isJoined
  · rfl

/-- Texts of characters come back as they were. -/
theorem rereadText_of_scalar (ascii : Bool) (t : Text) (scalar : t.isScalar = true) :
    rereadText ascii t = t :=
  rereadText_of_joined ascii t (t.joined_of_scalar scalar)

theorem joinHalves_ne_nil (t : Text) (some : t ≠ []) : joinHalves t ≠ [] := by
  cases t with
  | nil => exact absurd rfl some
  | cons p t =>
    cases t with
    | nil => exact List.cons_ne_nil _ _
    | cons q t =>
      rw [joinHalves]
      split <;> exact List.cons_ne_nil _ _

/-- Halves are joined to points past all that have four digits. -/
theorem le_joined {p q : Point} (pair : (p.isHigh && q.isLow) = true) :
    0x10000 ≤ (joined p q).val := by
  simp only [Point.isHigh, Point.isLow, Bool.and_eq_true, decide_eq_true_eq] at pair
  rw [joined, Point.val_ofNat _ (by omega)]
  omega

theorem val_mem_of_escapeLetter? {q : Point} {c : Char} (found : escapeLetter? q = some c) :
    q.val ∈ [0x22, 0x5C, 0x2F, 0x62, 0x66, 0x6E, 0x72, 0x74] := by
  unfold escapeLetter? at found
  repeat' split at found
  all_goals cases found
  all_goals
    next is =>
      rw [beq_iff_eq.mp is]
      decide

/-- Escapes stand for control characters, for quote and backslash, and in ASCII texts for what is
not ASCII. -/
inductive PointText (ascii : Bool) (p : Point) : Text → Prop
  | plain : p.is '"' = false → p.is '\\' = false → 32 ≤ p.val → (ascii = true → p.val < 127) →
    PointText ascii p [p]
  | letter (q : Point) (c : Char) : q.is 'u' = false → escapeLetter? q = some c → Point.ofChar c =
        p →
      PointText ascii p [Point.ofChar '\\', q]
  | hex : p.val < 0x10000 → ascii = true ∨ p.val < 32 →
    PointText ascii p ("\\u" ++ Text.hex 4 p.val)
  | pair : ascii = true → 0x10000 ≤ p.val → PointText ascii p (surrogateEscapes p.val)

theorem pointText (ascii : Bool) (p : Point) : PointText ascii p (quotedPoint ascii p) := by
  have letter (q c : Char) (notU : (Point.ofChar q).is 'u' = false)
      (found : escapeLetter? (Point.ofChar q) = some c) (is : p.val = c.toNat) :
      PointText ascii p [Point.ofChar '\\', Point.ofChar q] :=
    .letter _ c notU found (Fin.ext is.symm)
  unfold quotedPoint
  refine iteInduction (fun is => letter '"' '"' rfl rfl (beq_iff_eq.mp is)) fun quote => ?_
  refine iteInduction (fun is => letter '\\' '\\' rfl rfl (beq_iff_eq.mp is)) fun slash => ?_
  refine iteInduction (fun is => letter 'n' '\n' rfl rfl (beq_iff_eq.mp is)) fun _ => ?_
  refine iteInduction (fun is => letter 'r' '\r' rfl rfl (beq_iff_eq.mp is)) fun _ => ?_
  refine iteInduction (fun is => letter 't' '\t' rfl rfl (beq_iff_eq.mp is)) fun _ => ?_
  refine iteInduction (fun is => letter 'b' '\x08' rfl rfl (beq_iff_eq.mp is)) fun _ => ?_
  refine iteInduction (fun is => letter 'f' '\x0c' rfl rfl (beq_iff_eq.mp is)) fun _ => ?_
  refine iteInduction (fun low => .hex (by omega) (.inr low)) fun high => ?_
  refine iteInduction (fun inside => ?_) fun outside => ?_
  · refine .plain (Bool.not_eq_true _ ▸ quote) (Bool.not_eq_true _ ▸ slash) (by omega)
      fun isAscii => ?_
    simpa [isAscii] using inside
  · have isAscii : ascii = true := by
      cases ascii with
      | true => rfl
      | false => simp at outside
    exact iteInduction (fun small => .hex small (.inl isAscii)) fun large =>
      .pair isAscii (by omega)

/-- The halves of a point past FFFF, and the point again. -/
theorem surrogateEscapes_halves (n : Nat) (large : 0x10000 ≤ n) (range : n < 0x110000) :
    ∃ high low, surrogateEscapes n = Text.ofString "\\u" ++ Text.hex 4 high ++
        Text.ofString "\\u" ++ Text.hex 4 low ∧
      (0xD800 ≤ high ∧ high < 0xDC00) ∧ (0xDC00 ≤ low ∧ low < 0xE000) ∧
      0x10000 + (high - 0xD800) * 1024 + (low - 0xDC00) = n :=
  ⟨0xD800 + (n - 0x10000) / 1024, 0xDC00 + (n - 0x10000) % 1024, rfl, by omega, by omega, by omega⟩

end Json

end PhaseScript
