import PhaseScript.Proofs.Json.Dialect
import PhaseScript.Proofs.Text.Basic
/-
Strings of the dialect. What is read as a string is one, and every string is read; a text in quotes
is the string of the text as it comes back.
-/
set_option autoImplicit false

namespace PhaseScript.Json

namespace Dialect

open Point (is_iff)

theorem hexDigit_iff (p : Point) (n : Nat) : HexDigit p n ↔ p.asciiDigit? = some n ∧ n < 16 := by
  unfold HexDigit Point.asciiDigit?
  simp only [Bool.and_eq_true, decide_eq_true_eq]
  split
  · simp only [Option.some.injEq]
    omega
  split
  · simp only [Option.some.injEq]
    omega
  split
  · simp only [Option.some.injEq]
    omega
  · simp only [reduceCtorEq, false_and, iff_false]
    omega

theorem four_iff (t rest : Text) (n : Nat) : Four t n rest ↔ hexFour? t = some (n, rest) := by
  constructor
  · intro four
    obtain ⟨rest, a, b, c, d⟩ := four
    obtain ⟨a, smallA⟩ := (hexDigit_iff _ _).mp a
    obtain ⟨b, smallB⟩ := (hexDigit_iff _ _).mp b
    obtain ⟨c, smallC⟩ := (hexDigit_iff _ _).mp c
    obtain ⟨d, smallD⟩ := (hexDigit_iff _ _).mp d
    simp only [hexFour?, a, b, c, d, smallA, smallB, smallC, smallD, decide_true, Bool.and_self,
      if_true]
  · intro four
    unfold hexFour? at four
    split at four
    · split at four
      · next a b c d =>
        split at four
        · next small =>
          obtain ⟨rfl, rfl⟩ := Prod.mk.inj (Option.some.inj four)
          simp only [Bool.and_eq_true, decide_eq_true_eq] at small
          exact .mk _ ((hexDigit_iff _ _).mpr ⟨a, small.1.1.1⟩)
            ((hexDigit_iff _ _).mpr ⟨b, small.1.1.2⟩) ((hexDigit_iff _ _).mpr ⟨c, small.1.2⟩)
            ((hexDigit_iff _ _).mpr ⟨d, small.2⟩)
        · cases four
      · cases four
    · cases four

theorem Four.length {t rest : Text} {n : Nat} (four : Four t n rest) :
    t.length = rest.length + 4 := by
  cases four
  rfl

/-- The letters of escapes are those that the reader takes. -/
theorem letter_iff (p q : Point) : (∃ c, escapeLetter? p = some c ∧ q = Point.ofChar c) ↔
    ∃ c stands, (c, stands) ∈ letters ∧ p = Point.ofChar c ∧ q = Point.ofChar stands := by
  constructor
  · rintro ⟨c, letter, rfl⟩
    unfold escapeLetter? at letter
    repeat' split at letter
    all_goals cases letter
    all_goals
      next is => exact ⟨_, _, by decide, (is_iff _ _).mp is, rfl⟩
  · rintro ⟨c, stands, among, rfl, rfl⟩
    simp only [letters, List.mem_cons, Prod.mk.injEq, List.not_mem_nil, or_false] at among
    rcases among with ⟨rfl, rfl⟩ | ⟨rfl, rfl⟩ | ⟨rfl, rfl⟩ | ⟨rfl, rfl⟩ | ⟨rfl, rfl⟩ | ⟨rfl, rfl⟩ |
      ⟨rfl, rfl⟩ | ⟨rfl, rfl⟩ <;> exact ⟨_, rfl, rfl⟩

theorem Body.ne_nil {t s rest : Text} (body : Body t s rest) : t ≠ [] := by
  cases body <;> exact List.cons_ne_nil _ _

/-- A string that goes on with an escape by digits has four of them, and something behind them. -/
theorem Body.four {digits s rest : Text}
    (body : Body (Point.ofChar '\\' :: Point.ofChar 'u' :: digits) s rest) :
    ∃ n t, Four digits n t ∧ t ≠ [] := by
  generalize shape : Point.ofChar '\\' :: Point.ofChar 'u' :: digits = whole at body
  cases body with
  | close => exact absurd (List.cons.inj shape).1 (by decide)
  | plain _ _ other => exact absurd (congrArg Fin.val (List.cons.inj shape).1).symm other
  | letter among =>
    obtain ⟨-, tail⟩ := List.cons.inj shape
    have head := (List.cons.inj tail).1
    simp only [letters, List.mem_cons, Prod.mk.injEq, List.not_mem_nil, or_false] at among
    rcases among with ⟨rfl, -⟩ | ⟨rfl, -⟩ | ⟨rfl, -⟩ | ⟨rfl, -⟩ | ⟨rfl, -⟩ | ⟨rfl, -⟩ | ⟨rfl, -⟩ |
      ⟨rfl, -⟩ <;> exact absurd head (by decide)
  | single four _ body =>
    obtain ⟨-, tail⟩ := List.cons.inj shape
    obtain ⟨-, rfl⟩ := List.cons.inj tail
    exact ⟨_, _, four, body.ne_nil⟩
  | pair four _ _ _ _ =>
    obtain ⟨-, tail⟩ := List.cons.inj shape
    obtain ⟨-, rfl⟩ := List.cons.inj tail
    exact ⟨_, _, four, List.cons_ne_nil _ _⟩

/-- Behind a high half a low one is found as the reader looks for it. -/
theorem lowHalf_pair {digits t : Text} {low : Nat} (four : Four digits low t)
    (isLow : IsLowHalf low) (further : t ≠ []) :
    lowHalf (Point.ofChar '\\' :: Point.ofChar 'u' :: digits) = .ok (some (low, t)) := by
  have long : 4 < digits.length := by
    have := four.length
    have := List.length_pos_iff.mpr further
    omega
  have slash : (Point.ofChar '\\').is '\\' = true := rfl
  have letter : (Point.ofChar 'u').is 'u' = true := rfl
  have both : (decide (0xDC00 ≤ low) && decide (low < 0xE000)) = true := by
    rw [Bool.and_eq_true, decide_eq_true_eq, decide_eq_true_eq]
    exact isLow
  simp only [lowHalf, slash, letter, Bool.true_and, decide_eq_true_eq, long, if_true,
    (four_iff _ _ _).mp four, both]

/-- Where no low half follows, none is found. -/
theorem lowHalf_none {t s rest : Text} (body : Body t s rest) (not : ¬ LowNext t) :
    lowHalf t = .ok none := by
  unfold lowHalf
  split
  · next a b digits =>
    split
    · next escape =>
      simp only [Bool.and_eq_true, is_iff, decide_eq_true_eq] at escape
      obtain ⟨⟨rfl, rfl⟩, long⟩ := escape
      obtain ⟨n, after, four, -⟩ := body.four
      rw [(four_iff _ _ _).mp four]
      dsimp only
      split
      · next low =>
        rw [Bool.and_eq_true, decide_eq_true_eq, decide_eq_true_eq] at low
        exact absurd ⟨digits, n, after, rfl, four, low⟩ not
      · rfl
    · rfl
  · rfl

/-- The escape of a point by digits, where a string goes on behind it. -/
theorem readHexEscape_single {digits t s rest : Text} {n : Nat} (four : Four digits n t)
    (alone : IsHighHalf n → ¬ LowNext t) (body : Body t s rest) :
    readHexEscape (Point.ofChar 'u' :: digits) = .ok (Point.ofNat n, t) := by
  have long : ¬ digits.length ≤ 4 := by
    have := four.length
    have := List.length_pos_iff.mpr body.ne_nil
    omega
  simp only [readHexEscape, List.drop_one, List.tail_cons, long, if_false, (four_iff _ _ _).mp four]
  split
  · next high =>
    rw [Bool.and_eq_true, decide_eq_true_eq, decide_eq_true_eq] at high
    rw [lowHalf_none body (alone high)]
  · rfl

theorem readHexEscape_pair {digits digits' t : Text} {high low : Nat}
    (four : Four digits high (Point.ofChar '\\' :: Point.ofChar 'u' :: digits'))
    (isHigh : IsHighHalf high) (four' : Four digits' low t) (isLow : IsLowHalf low)
    (further : t ≠ []) :
    readHexEscape (Point.ofChar 'u' :: digits) =
      .ok (Point.ofNat (0x10000 + (high - 0xD800) * 1024 + (low - 0xDC00)), t) := by
  have long : ¬ digits.length ≤ 4 := by
    have := four.length
    rw [List.length_cons] at this
    omega
  have both : (decide (0xD800 ≤ high) && decide (high < 0xDC00)) = true := by
    rw [Bool.and_eq_true, decide_eq_true_eq, decide_eq_true_eq]
    exact isHigh
  simp only [readHexEscape, List.drop_one, List.tail_cons, long, if_false,
    (four_iff _ _ _).mp four, both, if_true, lowHalf_pair four' isLow further]

/-- What the escape of a point is read as goes on a string. -/
theorem Body.of_hexEscape {digits behind s rest : Text} {p : Point}
    (escape : readHexEscape (Point.ofChar 'u' :: digits) = .ok (p, behind))
    (body : Body behind s rest) :
    Body (Point.ofChar '\\' :: Point.ofChar 'u' :: digits) (p :: s) rest := by
  unfold readHexEscape at escape
  rw [List.drop_one, List.tail_cons] at escape
  dsimp only at escape
  split at escape
  · cases escape
  split at escape
  · cases escape
  next n after found =>
  have four := (four_iff _ _ _).mpr found
  split at escape
  · next high =>
    rw [Bool.and_eq_true, decide_eq_true_eq, decide_eq_true_eq] at high
    split at escape
    · cases escape
    · next low behind' second =>
      obtain ⟨rfl, rfl⟩ := Prod.mk.inj (Except.ok.inj escape)
      unfold lowHalf at second
      split at second
      · next a b digits' =>
        split at second
        · next both =>
          simp only [Bool.and_eq_true, is_iff, decide_eq_true_eq] at both
          obtain ⟨⟨rfl, rfl⟩, long⟩ := both
          split at second
          · cases second
          · next found' =>
            split at second
            · next isLow =>
              obtain ⟨rfl, rfl⟩ := Prod.mk.inj (Option.some.inj (Except.ok.inj second))
              rw [Bool.and_eq_true, decide_eq_true_eq, decide_eq_true_eq] at isLow
              exact .pair four high ((four_iff _ _ _).mpr found') isLow body
            · cases second
        · cases second
      · cases second
    · next second =>
      obtain ⟨rfl, rfl⟩ := Prod.mk.inj (Except.ok.inj escape)
      refine .single four (fun _ next => ?_) body
      obtain ⟨digits', low, rest', rfl, four', isLow⟩ := next
      obtain ⟨n', after', same, further⟩ := body.four
      obtain ⟨rfl, rfl⟩ := Prod.mk.inj (Option.some.inj
        (((four_iff _ _ _).mp four').symm.trans ((four_iff _ _ _).mp same)))
      rw [lowHalf_pair four' isLow further] at second
      cases second
  · next notHigh =>
    obtain ⟨rfl, rfl⟩ := Prod.mk.inj (Except.ok.inj escape)
    refine .single four (fun high => absurd ?_ notHigh) body
    rw [Bool.and_eq_true, decide_eq_true_eq, decide_eq_true_eq]
    exact high

/-- What is read as a string is one. -/
theorem body_of_readString {size fuel : Nat} {t read s rest : Text}
    (string : readString true size fuel t read = .ok (s, rest)) :
    ∃ more, Body t more rest ∧ s = read.reverse ++ more := by
  induction fuel generalizing t read with
  | zero => cases string
  | succ fuel ih =>
    cases t with
    | nil => cases string
    | cons p t =>
      have before (q : Point) (more : Text) :
          (q :: read).reverse ++ more = read.reverse ++ q :: more := by
        rw [List.reverse_cons, List.append_assoc, List.singleton_append]
      rw [readString.eq_def] at string
      dsimp only at string
      split at string
      · next quote =>
        obtain ⟨rfl, rfl⟩ := Prod.mk.inj (Except.ok.inj string)
        rw [is_iff] at quote
        rw [quote]
        exact ⟨[], .close _, (List.append_nil _).symm⟩
      next notQuote =>
      split at string
      · next slash =>
        rw [is_iff] at slash
        rw [slash]
        split at string
        · cases string
        next letter after =>
        split at string
        · next isU =>
          rw [is_iff] at isU
          rw [isU] at string ⊢
          split at string
          · cases string
          next q behind escape =>
          obtain ⟨more, body, rfl⟩ := ih string
          exact ⟨q :: more, body.of_hexEscape escape, before q more⟩
        · split at string
          · next c found =>
            obtain ⟨more, body, rfl⟩ := ih string
            obtain ⟨c', stands, among, rfl, same⟩ := (letter_iff _ _).mp ⟨c, found, rfl⟩
            exact ⟨Point.ofChar c :: more, by rw [same]; exact .letter among body, before _ more⟩
          · cases string
      next notSlash =>
      split at string
      · cases string
      next notControl =>
      obtain ⟨more, body, rfl⟩ := ih string
      have other (c : Char) (not : ¬ p.is c = true) : p.val ≠ c.toNat := by
        rw [Point.is, beq_iff_eq] at not
        exact not
      refine ⟨p :: more, .plain ?_ (other '"' notQuote) (other '\\' notSlash) body, before p more⟩
      rw [Bool.true_and, decide_eq_true_eq] at notControl
      exact Nat.le_of_not_lt notControl

/-- A fuel that is as large as a text has something for its first point. -/
theorem fuel_cons {p : Point} {t : Text} {fuel : Nat} (enough : (p :: t).length ≤ fuel) :
    ∃ less, fuel = less + 1 ∧ t.length ≤ less := by
  rw [List.length_cons] at enough
  exact ⟨fuel - 1, by omega, by omega⟩

theorem escapeLetter?_eq {c stands : Char} (among : (c, stands) ∈ letters) :
    escapeLetter? (Point.ofChar c) = some stands ∧ (Point.ofChar c).is 'u' = false := by
  simp only [letters, List.mem_cons, Prod.mk.injEq, List.not_mem_nil, or_false] at among
  rcases among with ⟨rfl, rfl⟩ | ⟨rfl, rfl⟩ | ⟨rfl, rfl⟩ | ⟨rfl, rfl⟩ | ⟨rfl, rfl⟩ | ⟨rfl, rfl⟩ |
    ⟨rfl, rfl⟩ | ⟨rfl, rfl⟩ <;> exact ⟨rfl, rfl⟩

/-- A string is read as what it is. -/
theorem Body.readString_eq {t s rest : Text} (body : Body t s rest) (size : Nat) {fuel : Nat}
    (enough : t.length ≤ fuel) (read : Text) :
    readString true size fuel t read = .ok (read.reverse ++ s, rest) := by
  have before (q : Point) (read more : Text) :
      (q :: read).reverse ++ more = read.reverse ++ q :: more := by
    rw [List.reverse_cons, List.append_assoc, List.singleton_append]
  have quote : (Point.ofChar '\\').is '"' = false := rfl
  have slash : (Point.ofChar '\\').is '\\' = true := rfl
  have isU : (Point.ofChar 'u').is 'u' = true := rfl
  induction body generalizing fuel read with
  | close rest =>
    obtain ⟨fuel, rfl, left⟩ := fuel_cons enough
    rw [readString.eq_def, List.append_nil]
    rfl
  | @plain p t s rest low notQuote notSlash body ih =>
    obtain ⟨fuel, rfl, left⟩ := fuel_cons enough
    have control : ¬ (true && decide (p.val < 32)) = true := by
      rw [Bool.true_and, decide_eq_true_eq]
      exact Nat.not_lt.mpr low
    rw [readString.eq_def]
    dsimp only
    have other (c : Char) (not : p.val ≠ c.toNat) : ¬ p.is c = true := mt beq_iff_eq.mp not
    rw [if_neg (other '"' notQuote), if_neg (other '\\' notSlash), if_neg control, ih left, before]
  | @letter c stands t s rest among body ih =>
    obtain ⟨fuel, rfl, left⟩ := fuel_cons enough
    obtain ⟨found, other⟩ := escapeLetter?_eq among
    rw [List.length_cons] at left
    rw [readString.eq_def]
    simp only [quote, slash, other, found, Bool.false_eq_true, if_false, if_true]
    rw [ih (by omega), before]
  | @single digits t s rest n four alone body ih =>
    obtain ⟨fuel, rfl, left⟩ := fuel_cons enough
    have enough' : t.length ≤ fuel := by
      have := four.length
      rw [List.length_cons] at left
      omega
    rw [readString.eq_def]
    simp only [quote, slash, isU, Bool.false_eq_true, if_false, if_true,
      readHexEscape_single four alone body]
    rw [ih enough', before]
  | @pair digits digits' t s rest high low four isHigh four' isLow body ih =>
    obtain ⟨fuel, rfl, left⟩ := fuel_cons enough
    have enough' : t.length ≤ fuel := by
      have := four.length
      have := four'.length
      simp only [List.length_cons] at *
      omega
    rw [readString.eq_def]
    simp only [quote, slash, isU, Bool.false_eq_true, if_false, if_true,
      readHexEscape_pair four isHigh four' isLow body.ne_nil]
    rw [ih enough', before]

/-- A string in a text is read from behind its quote. -/
theorem Body.readString_nil {t s rest : Text} (body : Body t s rest) :
    readString true (t.length + 1) (t.length + 1) t [] = .ok (s, rest) :=
  body.readString_eq _ (Nat.le_succ _) []

theorem Body.shorter {t s rest : Text} (body : Body t s rest) : rest.length < t.length := by
  induction body with
  | close rest => exact Nat.lt_succ_self _
  | plain _ _ _ _ ih => exact Nat.lt_succ_of_lt ih
  | letter _ _ ih => exact Nat.lt_succ_of_lt (Nat.lt_succ_of_lt ih)
  | single four _ _ ih =>
    have := four.length
    simp only [List.length_cons]
    omega
  | pair four _ four' _ _ ih =>
    have := four.length
    have := four'.length
    simp only [List.length_cons] at *
    omega

theorem four_hex (n : Nat) (rest : Text) (small : n < 0x10000) :
    Four (Text.hex 4 n ++ rest) n rest :=
  (four_iff _ _ _).mpr (hexFour?_hex n rest small)

theorem Four.unique {t rest rest' : Text} {m n : Nat} (four : Four t m rest)
    (four' : Four t n rest') : m = n :=
  (Prod.mk.inj (Option.some.inj
    (((four_iff _ _ _).mp four).symm.trans ((four_iff _ _ _).mp four')))).1

/-- A point in quotes stands for itself, unless it begins a pair. -/
theorem body_quotedPoint {ascii : Bool} {p : Point} {after s rest : Text}
    (body : Body after s rest) (alone : ascii = true → p.isHigh = true → ¬ LowNext after) :
    Body (quotedPoint ascii p ++ after) (p :: s) rest := by
  generalize text : quotedPoint ascii p = written
  have shape := pointText ascii p
  rw [text] at shape
  cases shape with
  | plain quote slash low _ =>
    exact .plain low (beq_eq_false_iff_ne.mp quote) (beq_eq_false_iff_ne.mp slash) body
  | letter q c _ found same =>
    obtain ⟨letter, stands, among, rfl, rfl⟩ := (letter_iff q p).mp ⟨c, found, same.symm⟩
    exact .letter among body
  | hex small escaped =>
    have itself : Point.ofNat p.val = p := Fin.ext (Point.val_ofNat p.val p.isLt)
    have single : Body (Point.ofChar '\\' :: Point.ofChar 'u' :: (Text.hex 4 p.val ++ after))
        (Point.ofNat p.val :: s) rest := by
      refine .single (four_hex p.val after small) (fun high => ?_) body
      have isHigh : p.isHigh = true := by
        rw [Point.isHigh, Bool.and_eq_true, decide_eq_true_eq, decide_eq_true_eq]
        exact high
      exact alone (escaped.resolve_right fun control => by have := high.1; omega) isHigh
    rwa [itself] at single
  | pair _ large =>
    obtain ⟨high, low, shown, isHigh, isLow, joins⟩ :=
      surrogateEscapes_halves p.val large p.isLt
    have point : Point.ofNat (0x10000 + (high - 0xD800) * 1024 + (low - 0xDC00)) = p := by
      rw [joins]
      exact Fin.ext (Point.val_ofNat p.val p.isLt)
    have second := four_hex low after (by omega)
    have both : Body (Point.ofChar '\\' :: Point.ofChar 'u' :: (Text.hex 4 high ++
        Point.ofChar '\\' :: Point.ofChar 'u' :: (Text.hex 4 low ++ after))) _ rest :=
      .pair (four_hex high _ (by omega)) isHigh second isLow body
    rw [point] at both
    rw [shown]
    simp only [List.append_assoc]
    exact both

/-- Half of a surrogate pair is escaped in ASCII texts. -/
theorem quotedPoint_half {p : Point} (half : p.isSurrogate = true) :
    quotedPoint true p = Text.ofString "\\u" ++ Text.hex 4 p.val := by
  have bounds : 0xD800 ≤ p.val ∧ p.val < 0xE000 := by
    simpa only [Point.isSurrogate, Bool.and_eq_true, decide_eq_true_eq] using half
  generalize text : quotedPoint true p = written
  have shape := pointText true p
  rw [text] at shape
  cases shape with
  | plain _ _ _ small =>
    have := small rfl
    omega
  | letter q c _ _ same =>
    rw [← same, Point.isSurrogate_ofChar] at half
    cases half
  | hex => rfl
  | pair => omega

/-- The escapes of the halves of a surrogate pair stand for one point. -/
theorem body_quotedPair {p q : Point} {after s rest : Text} (pair : (p.isHigh && q.isLow) = true)
    (body : Body after s rest) :
    Body (quotedPoint true p ++ (quotedPoint true q ++ after)) (joined p q :: s) rest := by
  simp only [Point.isHigh, Point.isLow, Bool.and_eq_true, decide_eq_true_eq] at pair
  have half (r : Point) (above : 0xD800 ≤ r.val) (below : r.val < 0xE000) :
      r.isSurrogate = true := by
    rw [Point.isSurrogate, Bool.and_eq_true, decide_eq_true_eq, decide_eq_true_eq]
    exact ⟨above, below⟩
  rw [quotedPoint_half (half p pair.1.1 (by omega)), quotedPoint_half (half q (by omega) pair.2.2),
    List.append_assoc, List.append_assoc]
  exact .pair (four_hex p.val _ (by omega)) pair.1 (four_hex q.val after (by omega)) pair.2 body

/-- A point that is no low half does not go on a high one. -/
theorem not_lowNext_quotedPoint {ascii : Bool} {q : Point} (other : q.isLow = false)
    (after : Text) : ¬ LowNext (quotedPoint ascii q ++ after) := by
  rintro ⟨digits, low, rest, shape, four, isLow⟩
  have written := pointText ascii q
  generalize quotedPoint ascii q = t at shape written
  cases written with
  | plain _ slash _ _ =>
    rw [(List.cons.inj shape).1] at slash
    cases slash
  | letter r c notU _ _ =>
    rw [(List.cons.inj (List.cons.inj shape).2).1] at notU
    cases notU
  | hex small _ =>
    rw [← (List.cons.inj (List.cons.inj shape).2).2] at four
    rw [four.unique (four_hex q.val after small)] at isLow
    simp only [Point.isLow, Bool.and_eq_false_iff, decide_eq_false_iff_not] at other
    unfold IsLowHalf at isLow
    omega
  | pair _ large =>
    obtain ⟨high, second, shown, isHigh, -, -⟩ := surrogateEscapes_halves q.val large q.isLt
    rw [shown, List.append_assoc, List.append_assoc, List.append_assoc] at shape
    rw [← (List.cons.inj (List.cons.inj shape).2).2] at four
    rw [four.unique (four_hex high _ (by omega))] at isLow
    unfold IsLowHalf at isLow
    omega

theorem not_lowNext_quote (rest : Text) : ¬ LowNext (Point.ofChar '"' :: rest) := by
  rintro ⟨digits, low, rest, shape, -, -⟩
  exact absurd (List.cons.inj shape).1 (by decide)

/-- A text in quotes, from behind the opening one on. -/
theorem body_quoted (ascii : Bool) (t rest : Text) :
    Body (t.flatMap (quotedPoint ascii) ++ Point.ofChar '"' :: rest) (rereadText ascii t) rest := by
  cases ascii with
  | false =>
    induction t with
    | nil => exact .close rest
    | cons p t ih =>
      rw [List.flatMap_cons, List.append_assoc]
      exact body_quotedPoint ih nofun
  | true =>
    change Body _ (joinHalves t) rest
    induction t using joinHalves.induct with
    | case1 p q t pair ih =>
      rw [joinHalves, if_pos pair, List.flatMap_cons, List.flatMap_cons, List.append_assoc,
        List.append_assoc]
      exact body_quotedPair pair ih
    | case2 p q t pair ih =>
      rw [joinHalves, if_neg pair, List.flatMap_cons, List.append_assoc]
      refine body_quotedPoint ih fun _ high => ?_
      rw [List.flatMap_cons, List.append_assoc]
      exact not_lowNext_quotedPoint (by simpa [high] using pair) _
    | case3 p =>
      rw [joinHalves, List.flatMap_cons, List.append_assoc]
      exact body_quotedPoint (.close rest) fun _ _ => not_lowNext_quote rest
    | case4 => exact .close rest

end Dialect

end PhaseScript.Json
