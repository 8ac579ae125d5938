import Mathlib.Data.List.Basic
import PhaseScript.Proofs.Text.Basic
import PhaseScript.Proofs.Text.Digits
import PhaseScript.Proofs.Text.Encoding
import PhaseScript.Settings.Basic
import PhaseScript.Text.Search
import PhaseScript.Url.Reader
/-
The address of the Redis server, taken apart again. By the common form of addresses the scheme ends
at the first "://", the server's part at the next slash, question mark or hash, and the credentials
at the last at sign of that part; then the escapes of octets are resolved. The password stands in
the address as it is set, so one with such a mark or with an escape is another one to the reader.
-/
set_option autoImplicit false

namespace PhaseScript

namespace Utf8

theorem eq_nil_of_done {octets : Bytes} (done : next octets = .done) : octets = [] := by
  revert done
  fun_cases next octets
  case case1 => exact fun _ => rfl
  all_goals exact fun done => by cases done

/-- There are no more characters shown than there are octets. -/
theorem length_decodeLossy_le (octets : Bytes) : (decodeLossy octets).length ≤ octets.length := by
  induction size : octets.length using Nat.strong_induction_on generalizing octets with
  | _ n ih =>
    subst size
    cases reads : next octets with
    | done =>
      rw [eq_nil_of_done reads]
      exact Nat.le_refl _
    | point p size =>
      have shorter := drop_shorter octets (by rintro rfl; cases reads) (scalar_of_next reads).2
      rw [decodeLossy_point reads, List.length_cons]
      exact (ih _ shorter _ rfl).trans_lt shorter
    | fault size reason =>
      have shorter := drop_shorter octets (by rintro rfl; cases reads) (size_pos_of_fault reads)
      rw [decodeLossy_fault reads, List.length_cons]
      exact (ih _ shorter _ rfl).trans_lt shorter

end Utf8

namespace Url

/-- The octet that a percent sign and two digits stand for. -/
def escaped? (p a b : Point) : Option UInt8 :=
  if p.is '%' then
    (digitIn? 16 a).bind fun high => (digitIn? 16 b).map fun low => UInt8.ofNat (high * 16 + low)
  else none

/-- A text with its escapes resolved, after some octets whose escapes stand right before it. -/
def unescapedAfter (octets : Bytes) : Text → Text
  | p :: a :: b :: rest =>
    match escaped? p a b with
    | some octet => unescapedAfter (octets ++ [octet]) rest
    | none => Utf8.decodeLossy octets ++ p :: unescapedAfter [] (a :: b :: rest)
  | p :: rest => Utf8.decodeLossy octets ++ p :: unescapedAfter [] rest
  | [] => Utf8.decodeLossy octets

/-- A text with its escapes resolved: escapes in a row are read as one row of octets. -/
def unescaped (t : Text) : Text := unescapedAfter [] t

/-- A text with an escape in it. -/
inductive HasEscape : Text → Prop
  | here {p a b : Point} {octet : UInt8} {rest : Text} (escape : escaped? p a b = some octet) :
      HasEscape (p :: a :: b :: rest)
  | later {p : Point} {rest : Text} (escape : HasEscape rest) : HasEscape (p :: rest)

theorem mem_of_hasEscape {t : Text} (escape : HasEscape t) : Point.ofChar '%' ∈ t := by
  induction escape with
  | @here p a b octet rest escape =>
    rw [escaped?] at escape
    split at escape
    · next isPercent =>
      rw [(Point.is_iff p '%').mp isPercent]
      exact List.mem_cons_self
    · cases escape
  | later _ ih => exact List.mem_cons_of_mem _ ih

theorem length_unescapedAfter_le (octets : Bytes) (t : Text) :
    (unescapedAfter octets t).length ≤ octets.length + t.length := by
  have shown := Utf8.length_decodeLossy_le octets
  fun_induction unescapedAfter octets t with
  | case1 octets p a b rest octet escape ih =>
    have before := ih (Utf8.length_decodeLossy_le _)
    simp only [List.length_append, List.length_cons, List.length_nil] at before ⊢
    omega
  | case2 octets p a b rest none ih =>
    have behind := ih (Utf8.length_decodeLossy_le _)
    simp only [List.length_append, List.length_cons, List.length_nil] at behind ⊢
    omega
  | case3 octets p rest short ih =>
    have behind := ih (Utf8.length_decodeLossy_le _)
    simp only [List.length_append, List.length_cons, List.length_nil] at behind ⊢
    omega
  | case4 octets => exact shown

/-- A text with an escape gets shorter, since three characters stand for one octet. -/
theorem length_unescapedAfter_lt {t : Text} (escape : HasEscape t) (octets : Bytes) :
    (unescapedAfter octets t).length < octets.length + t.length := by
  have shown := Utf8.length_decodeLossy_le octets
  fun_induction unescapedAfter octets t with
  | case1 octets p a b rest octet escape ih =>
    have before := length_unescapedAfter_le (octets ++ [octet]) rest
    simp only [List.length_append, List.length_cons, List.length_nil] at before ⊢
    omega
  | case2 octets p a b rest none ih =>
    cases escape with
    | here escape => rw [none] at escape; cases escape
    | later escape =>
      have behind := ih escape (Utf8.length_decodeLossy_le _)
      simp only [List.length_append, List.length_cons, List.length_nil] at behind ⊢
      omega
  | case3 octets p rest short ih =>
    cases escape with
    | here escape => exact absurd rfl (short _ _ _)
    | later escape =>
      have behind := ih escape (Utf8.length_decodeLossy_le _)
      simp only [List.length_append, List.length_cons, List.length_nil] at behind ⊢
      omega
  | case4 octets => cases escape

theorem unescapedAfter_plain {t : Text} (plain : ¬ HasEscape t) (octets : Bytes) :
    unescapedAfter octets t = Utf8.decodeLossy octets ++ t := by
  have nothing : Utf8.decodeLossy [] = [] := rfl
  fun_induction unescapedAfter octets t with
  | case1 octets p a b rest octet escape ih => exact absurd (.here escape) plain
  | case2 octets p a b rest none ih => rw [ih fun escape => plain (.later escape), nothing]; rfl
  | case3 octets p rest short ih => rw [ih fun escape => plain (.later escape), nothing]; rfl
  | case4 octets => exact (List.append_nil _).symm

/-- A text is read as it stands if and only if no escape is in it. -/
theorem unescaped_eq_self_iff {t : Text} : unescaped t = t ↔ ¬ HasEscape t := by
  refine ⟨fun same escape => ?_, fun plain => unescapedAfter_plain plain []⟩
  have shorter := length_unescapedAfter_lt escape []
  rw [← unescaped, same, List.length_nil, Nat.zero_add] at shorter
  exact Nat.lt_irrefl _ shorter

theorem length_unescaped_le (t : Text) : (unescaped t).length ≤ t.length := by
  have := length_unescapedAfter_le [] t
  rwa [List.length_nil, Nat.zero_add] at this

section Marks

variable {c : Char} {t before after : Text}

theorem is_of_not_mem (apart : Point.ofChar c ∉ t) : ∀ p ∈ t, (!p.is c) = true := fun p among =>
  (Bool.not_eq_true' _).mpr (Bool.eq_false_iff.mpr fun same =>
    apart ((Point.is_iff p c).mp same ▸ among))

theorem is_mark : ¬ (!(Point.ofChar c).is c) = true := by
  rw [(Point.is_iff _ _).mpr rfl]
  exact Bool.false_ne_true

theorem cutAt_append (apart : Point.ofChar c ∉ before) :
    cutAt c (before ++ Point.ofChar c :: after) = (before, some after) := by
  have before' := is_of_not_mem apart
  rw [cutAt, List.dropWhile_append_of_pos before', List.takeWhile_append_of_pos before',
    List.dropWhile_cons_of_neg (by exact is_mark), List.takeWhile_cons_of_neg (by exact is_mark),
    List.append_nil]

theorem last_of_not_mem (apart : Point.ofChar c ∉ after) :
    ∀ p ∈ after.reverse, (!p.is c) = true :=
  is_of_not_mem fun among => apart (List.mem_reverse.mp among)

theorem splitLastAt_append (apart : Point.ofChar c ∉ after) :
    splitLastAt c (before ++ Point.ofChar c :: after) = some (before, after) := by
  have last : ((before ++ Point.ofChar c :: after).reverse.takeWhile fun p => !p.is c).reverse =
      after := by
    rw [List.reverse_append, List.reverse_cons, List.append_assoc,
      List.takeWhile_append_of_pos (last_of_not_mem apart), List.singleton_append,
      List.takeWhile_cons_of_neg (by exact is_mark), List.append_nil, List.reverse_reverse]
  have whole : (before ++ Point.ofChar c :: after).length = before.length + (after.length + 1) := by
    rw [List.length_append, List.length_cons]
  have place : before.length + (after.length + 1) - after.length - 1 = before.length := by omega
  rw [splitLastAt, last, whole, place, List.take_left]
  exact if_pos (by omega)

theorem splitLastAt_none (apart : Point.ofChar c ∉ t) : splitLastAt c t = none := by
  have whole : (t.reverse.takeWhile fun p => !p.is c) = t.reverse :=
    List.takeWhile_eq_self_iff.mpr (last_of_not_mem apart)
  rw [splitLastAt, whole, List.reverse_reverse]
  exact if_neg (Nat.lt_irrefl _)

theorem length_of_splitLastAt (split : splitLastAt c t = some (before, after)) :
    before.length < t.length := by
  rw [splitLastAt] at split
  split at split
  · cases split
    rw [List.length_take]
    omega
  · cases split

theorem length_of_cutAt (cut : cutAt c t = (before, some after)) : after.length < t.length := by
  rw [cutAt] at cut
  split at cut
  · cases cut
  · next p rest behind =>
    cases cut
    have suffix := (List.dropWhile_suffix (l := t) fun p => !p.is c).length_le
    rw [behind, List.length_cons] at suffix
    exact suffix

end Marks

/-- What an address says of a server. -/
structure ServerPlace where
  scheme : Text
  user : Text
  password : Text
  host : Text
  port : Int
  database : Int
  deriving DecidableEq

/-- The integer that digits spell, perhaps with a sign. -/
def integer? (t : Text) : Option Int :=
  let (isNegative, digits) := Text.takeSign t
  if digits.isEmpty || !digits.all Point.isAsciiDigit then none
  else some (if isNegative then -Json.digitsValue digits else Json.digitsValue digits)

/-- The marks that end the server's part of an address, and those that end the path. -/
def inServer : Point → Bool := isNoneOf ['/', '?', '#']
def inServerPath : Point → Bool := isNoneOf ['?', '#']

/-- The user and the password before the last at sign of a server's part, and the rest of it. -/
def takeCredentials (server : Text) : (Text × Text) × Text :=
  let (credentials, place) := (splitLastAt '@' server).getD ([], server)
  let (user, password) := cutAt ':' credentials
  ((user, password.getD []), place)

/-- Takes the address of a server apart; the path names the database. -/
def serverPlace? (address : Text) : Option ServerPlace := do
  let (scheme, rest) ← Row.cut? "://" address
  let server := rest.takeWhile inServer
  let path := (rest.dropWhile inServer).takeWhile inServerPath
  let ((user, password), place) := takeCredentials server
  let (host, port) := cutAt ':' place
  return {
    scheme, user := unescaped user, password := unescaped password, host := unescaped host
    port := ← integer? (port.getD []), database := ← integer? (path.drop 1) }

theorem integer?_ofInt (n : Int) : integer? (Text.ofInt n) = some n := by
  have digits (k : Nat) : ¬ ((Text.ofNat k).isEmpty ||
      !(Text.ofNat k).all Point.isAsciiDigit) = true := by
    rw [List.all_eq_true.mpr (Text.isAsciiDigit_of_mem_ofNat k), Bool.not_true, Bool.or_false,
      List.isEmpty_iff]
    exact Text.ofNat_ne_nil k
  cases n with
  | ofNat n =>
    rw [integer?, Text.ofInt, Text.takeSign_ofNat]
    dsimp only
    rw [if_neg (digits n), Json.digitsValue_ofNat]
    rfl
  | negSucc n =>
    have sign : Text.takeSign (Text.ofInt (.negSucc n)) = (true, Text.ofNat (n + 1)) := rfl
    rw [integer?, sign]
    dsimp only
    rw [if_neg (digits _), Json.digitsValue_ofNat]
    rfl

theorem cut_scheme (rest : Text) :
    Row.cut? (Text.ofString "://") (Text.ofString "redis://" ++ rest) =
      some (Text.ofString "redis", rest) := rfl

/-- What is read as a password is shorter than the server's part that it stands in. -/
theorem length_takeCredentials_le (server : Text) :
    (takeCredentials server).1.2.length ≤ server.length - 1 := by
  rw [takeCredentials]
  cases split : splitLastAt '@' server with
  | none => exact Nat.zero_le _
  | some parts =>
    have shorter := length_of_splitLastAt split
    generalize cut : cutAt ':' parts.1 = pieces
    obtain ⟨user, password⟩ := pieces
    rw [Option.getD_some]
    dsimp only
    rw [cut]
    cases password with
    | none => exact Nat.zero_le _
    | some password =>
      have behind := length_of_cutAt cut
      dsimp only [Option.getD_some]
      omega

end Url

namespace Settings

open Url

/-- The credentials in an address. -/
def credentials (password : Text) : Text :=
  if password = [] then [] else Point.ofChar ':' :: password ++ [Point.ofChar '@']

/-- What stands in the address after the credentials. -/
def afterCredentials (settings : Settings) : Text :=
  settings.redisHost ++ Point.ofChar ':' :: Text.ofInt settings.redisPort

theorem takeCredentials_append (password : Text) {after : Text}
    (apart : Point.ofChar '@' ∉ after) :
    takeCredentials (credentials password ++ after) = (([], password), after) := by
  rcases eq_or_ne password [] with rfl | some
  · rw [credentials, if_pos rfl, List.nil_append, takeCredentials, splitLastAt_none apart]
    rfl
  · have user : cutAt ':' (Point.ofChar ':' :: password) = ([], .some password) :=
      cutAt_append (show Point.ofChar ':' ∉ ([] : Text) from List.not_mem_nil)
    rw [credentials, if_neg some, List.append_assoc, List.singleton_append, takeCredentials,
      splitLastAt_append apart]
    dsimp only [Option.getD_some]
    rw [user]
    rfl

theorem redisUrl_eq (settings : Settings) : settings.redisUrl = Text.ofString "redis://" ++
    (credentials (settings.redisPassword.getD []) ++ (settings.afterCredentials ++
      Point.ofChar '/' :: Text.ofInt settings.redisDatabase)) := by
  cases given : settings.redisPassword with
  | none =>
    simp only [redisUrl, given, afterCredentials, List.append_assoc]
    rfl
  | some password =>
    simp only [redisUrl, given, afterCredentials, List.append_assoc]
    cases password <;> rfl

/-- A point that is no mark in an address. -/
def IsPlain (p : Point) : Prop := ∀ c ∈ [':', '@', '%', '/', '?', '#'], p ≠ Point.ofChar c

/-- A letter or digit, a dot or a hyphen. -/
def OfHost (p : Point) : Prop :=
  p.isAlphanumeric = true ∨ p = Point.ofChar '.' ∨ p = Point.ofChar '-'

/-- A point that has what no mark has is no mark. -/
theorem isPlain_of {P : Point → Prop} {p : Point} (holds : P p)
    (marks : [':', '@', '%', '/', '?', '#'].Forall fun c => ¬ P (Point.ofChar c)) : IsPlain p := by
  rintro c mark rfl
  exact List.forall_iff_forall_mem.mp marks c mark holds

theorem isPlain_of_ofHost {p : Point} (ofHost : OfHost p) : IsPlain p :=
  isPlain_of ofHost (by unfold OfHost; decide)

theorem isPlain_of_isNumeral {p : Point} (numeral : Text.IsNumeral p) : IsPlain p :=
  isPlain_of numeral (by unfold Text.IsNumeral; decide)

theorem isNoneOf_iff {chars : List Char} {p : Point} : isNoneOf chars p = true ↔
    ∀ c ∈ chars, p ≠ Point.ofChar c := by
  simp only [isNoneOf, Bool.not_eq_true', List.any_eq_false, Point.is_iff, ne_eq]

theorem isNoneOf_of_isPlain {chars : List Char} {p : Point} (plain : IsPlain p)
    (marks : chars ⊆ [':', '@', '%', '/', '?', '#']) : isNoneOf chars p = true :=
  isNoneOf_iff.mpr fun c mark => plain c (marks mark)

section Parts

variable {settings : Settings} (ofHost : ∀ p ∈ settings.redisHost, OfHost p)

include ofHost

theorem mem_afterCredentials {p : Point} (among : p ∈ settings.afterCredentials) :
    p = Point.ofChar ':' ∨ IsPlain p := by
  rcases List.mem_append.mp among with inHost | behind
  · exact .inr (isPlain_of_ofHost (ofHost p inHost))
  · exact (List.mem_cons.mp behind).imp id fun inPort =>
      isPlain_of_isNumeral (Text.isNumeral_of_mem_ofInt _ p inPort)

theorem cutAt_afterCredentials : cutAt ':' settings.afterCredentials =
    (settings.redisHost, some (Text.ofInt settings.redisPort)) :=
  cutAt_append fun among => isPlain_of_ofHost (ofHost _ among) ':' (by decide) rfl

theorem unescaped_host : unescaped settings.redisHost = settings.redisHost :=
  unescaped_eq_self_iff.mpr fun escape =>
    isPlain_of_ofHost (ofHost _ (mem_of_hasEscape escape)) '%' (by decide) rfl

theorem at_not_mem_afterCredentials : Point.ofChar '@' ∉ settings.afterCredentials := fun among =>
  (mem_afterCredentials ofHost among).elim (by decide) fun plain => plain '@' (by decide) rfl

theorem inServer_afterCredentials : ∀ p ∈ settings.afterCredentials, inServer p = true := by
  intro p among
  rcases mem_afterCredentials ofHost among with rfl | plain
  · decide
  · exact isNoneOf_of_isPlain plain (by simp)

/-- With a password that goes on to its end in the server's part, the address says what was set,
but for the escapes in the password. -/
theorem serverPlace?_redisUrl {password : Text} (given : settings.redisPassword.getD [] = password)
    (goesOn : ∀ p ∈ password, inServer p = true) :
    serverPlace? settings.redisUrl = some {
      scheme := Text.ofString "redis", user := [], password := unescaped password
      host := settings.redisHost, port := settings.redisPort
      database := settings.redisDatabase } := by
  have inCredentials : ∀ p ∈ credentials password, inServer p = true := by
    rw [credentials]
    split
    · nofun
    · exact List.forall_mem_cons.mpr ⟨by decide, List.forall_mem_append.mpr
        ⟨goesOn, List.forall_mem_singleton.mpr (by decide)⟩⟩
  have slash : ¬ inServer (Point.ofChar '/') = true := by decide
  have whole := redisUrl_eq settings
  rw [given] at whole
  have path : (Point.ofChar '/' :: Text.ofInt settings.redisDatabase).takeWhile inServerPath =
      Point.ofChar '/' :: Text.ofInt settings.redisDatabase := by
    refine List.takeWhile_eq_self_iff.mpr (List.forall_mem_cons.mpr ⟨by decide, fun p among => ?_⟩)
    have plain := isPlain_of_isNumeral (Text.isNumeral_of_mem_ofInt _ p among)
    exact isNoneOf_of_isPlain plain (by simp)
  rw [whole, serverPlace?, cut_scheme]
  simp only [Option.bind_eq_bind, Option.bind_some, List.takeWhile_append_of_pos inCredentials,
    List.takeWhile_append_of_pos (inServer_afterCredentials ofHost),
    List.dropWhile_append_of_pos inCredentials,
    List.dropWhile_append_of_pos (inServer_afterCredentials ofHost),
    List.takeWhile_cons_of_neg slash, List.dropWhile_cons_of_neg slash, List.append_nil, path,
    takeCredentials_append password (at_not_mem_afterCredentials ofHost),
    cutAt_afterCredentials ofHost, unescaped_host ofHost, Option.getD_some, integer?_ofInt,
    List.drop_succ_cons, List.drop_zero, Option.pure_def]
  rfl

end Parts

/-- Whatever is read of the address has a password that stands in the server's part. -/
theorem password_of_serverPlace? {place : ServerPlace} {rest : Text}
    (reads : serverPlace? (Text.ofString "redis://" ++ rest) = some place) :
    place.password.length ≤ (rest.takeWhile inServer).length - 1 := by
  rw [serverPlace?, cut_scheme] at reads
  simp only [Option.bind_eq_bind, Option.bind_some, Option.bind_eq_some_iff,
    Option.pure_def, Option.some.injEq] at reads
  obtain ⟨port, -, database, -, rfl⟩ := reads
  exact (length_unescaped_le _).trans (length_takeCredentials_le _)

/-- A password that does not go on to its end in the server's part is not read as it was set. -/
theorem length_inServer {password : Text} (ends : ¬ ∀ p ∈ password, inServer p = true)
    (behind : Text) :
    ((credentials password ++ behind).takeWhile inServer).length - 1 < password.length := by
  have some : password ≠ [] := by
    rintro rfl
    exact ends nofun
  have part := (List.takeWhile_prefix (l := password) inServer).length_le
  have less : (password.takeWhile inServer).length ≠ password.length := fun whole =>
    ends (List.takeWhile_eq_self_iff.mp
      ((List.takeWhile_prefix (l := password) inServer).eq_of_length whole))
  have colon : inServer (Point.ofChar ':') = true := by decide
  rw [credentials, if_neg some, List.append_assoc, List.cons_append,
    List.takeWhile_cons_of_pos colon, List.takeWhile_append, if_neg less, List.length_cons]
  omega

/-- The address says just what was set if and only if the password has neither a mark that ends the
server's part nor an escape. -/
theorem redisUrl_faithful_iff (settings : Settings) (ofHost : ∀ p ∈ settings.redisHost, OfHost p) :
    serverPlace? settings.redisUrl = some {
        scheme := Text.ofString "redis", user := [], password := settings.redisPassword.getD []
        host := settings.redisHost, port := settings.redisPort
        database := settings.redisDatabase } ↔
      (∀ p ∈ settings.redisPassword.getD [],
        p ≠ Point.ofChar '/' ∧ p ≠ Point.ofChar '?' ∧ p ≠ Point.ofChar '#') ∧
      ¬ HasEscape (settings.redisPassword.getD []) := by
  have marks (p : Point) : inServer p = true ↔
      p ≠ Point.ofChar '/' ∧ p ≠ Point.ofChar '?' ∧ p ≠ Point.ofChar '#' := by
    simp [inServer, isNoneOf_iff]
  simp only [← marks]
  by_cases goesOn : ∀ p ∈ settings.redisPassword.getD [], inServer p = true
  · rw [serverPlace?_redisUrl ofHost rfl goesOn, Option.some.injEq, ServerPlace.mk.injEq,
      unescaped_eq_self_iff]
    simp only [true_and, and_true]
    exact (and_iff_right goesOn).symm
  · refine iff_of_false (fun reads => ?_) fun carried => goesOn carried.1
    rw [redisUrl_eq] at reads
    have short := password_of_serverPlace? reads
    exact Nat.not_lt.mpr short (length_inServer goesOn _)

/-- Settings with a slash in the password. -/
def slashInPassword : Settings := { Settings.usual with redisPassword := some "p/w" }

/-- A slash in the password ends the server's part, so that the password is lost. -/
theorem slashInPassword_not_carried : serverPlace? slashInPassword.redisUrl ≠ some {
    scheme := Text.ofString "redis", user := [], password := "p/w", host := "localhost"
    port := 6379, database := 0 } := by
  have letters : (Text.ofString "localhost").all Point.isAlphanumeric = true := by decide +kernel
  intro carried
  have ⟨ends, _⟩ := (redisUrl_faithful_iff slashInPassword fun p among =>
    .inl (List.all_eq_true.mp letters p among)).mp carried
  exact (ends (Point.ofChar '/') (by decide)).1 rfl

end Settings

end PhaseScript
