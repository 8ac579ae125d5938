import PhaseScript.Proofs.Forwarding
import PhaseScript.Proofs.Json.Dialect.Reading
import PhaseScript.Proofs.Text.Encoding
/-
Which messages describe an invocation, and which one. A message is an object in the lax dialect
whose members for the program itself are well-formed, each in its own way where it is left out or
counts as not given; whatever else a message is, is a fault in the words of an invocation.
-/
set_option autoImplicit false

namespace PhaseScript

namespace Invocation

/-- Null, false, a zero of either sign, and what is empty. -/
inductive Falsy : Json → Prop
  | null : Falsy .null
  | false : Falsy (.bool false)
  | int : Falsy (.int 0)
  | float {x : Binary64} : x.isZero = true → Falsy (.float x)
  | string : Falsy (.string [])
  | array : Falsy (.array [])
  | object : Falsy (.object [])

/-- Whether a member is left out or null. -/
def Absent (member : Option Json) : Prop := member = none ∨ member = some .null

/-- Whether a member is left out or counts as not given. -/
def NotGiven (member : Option Json) : Prop := ∀ value, member = some value → Falsy value

/-- The settings of a script in turn: a null one is unset, and any other is told as text. -/
inductive Settings : List (Text × Json) → List (Text × Text) → Prop
  | nil : Settings [] []
  | unset (name : Text) {members : List (Text × Json)} {told : List (Text × Text)} :
    Settings members told → Settings ((name, .null) :: members) told
  | set (name : Text) {value : Json} {members : List (Text × Json)} {told : List (Text × Text)} :
    value ≠ .null → Settings members told →
    Settings ((name, value) :: members) ((name, (Datum.ofJson value).plain) :: told)

/-- An address without the slashes at its end. -/
def Unslashed (t url : Text) : Prop :=
  ∃ count, t = url ++ List.replicate count (Point.ofChar '/') ∧
    ∀ p, url.getLast? = some p → p ≠ Point.ofChar '/'

/-- What the members of a message have to be for the program itself. -/
structure WellFormed (members : List (Text × Json)) : Prop where
  code : Absent (Json.get? members "code") ∨ ∃ t, Json.get? members "code" = some (.string t)
  module : Absent (Json.get? members "module") ∨ ∃ t, Json.get? members "module" = some (.string t)
  env : Absent (Json.get? members "env") ∨
    ∃ settings, Json.get? members "env" = some (.object settings)
  service : NotGiven (Json.get? members "externalApiUrl") ∨
    (∃ t, Json.get? members "externalApiUrl" = some (.string t)) ∧
    (NotGiven (Json.get? members "externalApiHeaders") ∨
      ∃ entries, Json.get? members "externalApiHeaders" = some (.object entries) ∧
        ∀ entry ∈ entries, ∃ t, entry.2 = .string t)

/-- The service that members bind an invocation to. -/
inductive Binds (url headers : Option Json) : Option ExternalApi → Prop
  | none : NotGiven url → Binds url headers none
  | bare {t : Text} {api : ExternalApi} : url = some (.string t) → t ≠ [] → Unslashed t api.url →
    NotGiven headers → api.headers = [] → Binds url headers (some api)
  | headers {t : Text} {api : ExternalApi} : url = some (.string t) → t ≠ [] →
    Unslashed t api.url → api.headers ≠ [] →
    headers = some (.object (api.headers.map fun (name, t) => (name, .string t))) →
    Binds url headers (some api)

/-- The invocation that the members of a message describe. -/
structure Describes (members : List (Text × Json)) (i : Invocation) : Prop where
  source : (Absent (Json.get? members "code") ∧ i.source = []) ∨
    Json.get? members "code" = some (.string i.source)
  module : (Absent (Json.get? members "module") ∧ i.module = none) ∨
    ∃ t, Json.get? members "module" = some (.string t) ∧ i.module = some t
  environment : (Absent (Json.get? members "env") ∧ i.environment = []) ∨
    ∃ settings, Json.get? members "env" = some (.object settings) ∧
      Settings settings i.environment
  externalApi : Binds (Json.get? members "externalApiUrl")
    (Json.get? members "externalApiHeaders") i.externalApi
  context : i.context = contextMembers members

theorem isGiven_eq_false_iff (v : Json) : isGiven v = false ↔ Falsy v := by
  constructor
  · intro not
    cases v with
    | null => exact .null
    | bool b =>
      obtain rfl : b = false := not
      exact .false
    | int n =>
      obtain rfl : n = 0 := by simpa only [isGiven, bne_eq_false_iff_eq] using not
      exact .int
    | float x => exact .float (by simpa only [isGiven, Bool.not_eq_false'] using not)
    | string t =>
      obtain rfl : t = [] := by
        simpa only [isGiven, Bool.not_eq_false', List.isEmpty_iff] using not
      exact .string
    | array items =>
      obtain rfl : items = [] := by
        simpa only [isGiven, Bool.not_eq_false', List.isEmpty_iff] using not
      exact .array
    | object members =>
      obtain rfl : members = [] := by
        simpa only [isGiven, Bool.not_eq_false', List.isEmpty_iff] using not
      exact .object
  · intro falsy
    cases falsy with
    | float isZero => rw [isGiven, isZero, Bool.not_true]
    | null | false | int | string | array | object => rfl

theorem notGiven_none : NotGiven none := nofun

theorem notGiven_some (v : Json) : NotGiven (some v) ↔ isGiven v = false := by
  rw [isGiven_eq_false_iff]
  exact ⟨fun not => not v rfl, fun falsy w same => Option.some.inj same ▸ falsy⟩

theorem optionalText_eq_ok_iff (fault : Fault) (member : Option Json) (told : Option Text) :
    optionalText fault member = .ok told ↔
      (Absent member ∧ told = none) ∨ ∃ t, member = some (.string t) ∧ told = some t := by
  cases member with
  | none => simp [optionalText, Absent, eq_comm]
  | some value => cases value <;> simp [optionalText, Absent, eq_comm]

theorem environmentOf_object (members : List (Text × Json)) (told : List (Text × Text)) :
    environmentOf (some (.object members)) = .ok told ↔ Settings members told := by
  constructor
  · intro shown
    obtain rfl := Except.ok.inj shown
    clear shown
    induction members with
    | nil => exact .nil
    | cons member members ih =>
      obtain ⟨name, value⟩ := member
      by_cases isNull : value = .null
      · rw [isNull]
        exact .unset name ih
      · have told := Settings.set name isNull ih
        cases value <;> first | exact absurd rfl isNull | exact told
  · intro settings
    refine congrArg Except.ok ?_
    induction settings with
    | nil => rfl
    | unset name _ ih => exact ih
    | @set name value members told notNull _ ih =>
      have told := congrArg ((name, (Datum.ofJson value).plain) :: ·) ih
      cases value <;> first | exact absurd rfl notNull | exact told

theorem environmentOf_eq_ok_iff (member : Option Json) (told : List (Text × Text)) :
    environmentOf member = .ok told ↔ (Absent member ∧ told = []) ∨
      ∃ settings, member = some (.object settings) ∧ Settings settings told := by
  cases member with
  | none => simp [environmentOf, Absent, eq_comm]
  | some value =>
    cases value with
    | null => simp [environmentOf, Absent, eq_comm]
    | object members =>
      rw [environmentOf_object]
      simp [Absent]
    | bool | int | float | string | array => simp [environmentOf, Absent]

/-- Slashes are dropped at the end of an address, and nothing else. -/
theorem dropEndWhile_eq_iff (t url : Text) :
    Text.dropEndWhile (·.is '/') t = url ↔ Unslashed t url := by
  have slash (p : Point) : p.is '/' = true ↔ p = Point.ofChar '/' := Point.is_iff p '/'
  rw [Text.dropEndWhile]
  constructor
  · rintro rfl
    generalize back : t.reverse = r
    obtain rfl : t = r.reverse := by rw [← back, List.reverse_reverse]
    have all := List.eq_replicate_of_mem fun p (among : p ∈ r.takeWhile fun p => p.is '/') =>
      (slash p).mp (List.mem_takeWhile_imp (p := fun p : Point => p.is '/') among)
    refine ⟨(r.takeWhile fun p => p.is '/').length, ?_, fun p last same => ?_⟩
    · rw [← List.reverse_replicate, ← all, ← List.reverse_append, List.takeWhile_append_dropWhile]
    · have stop := List.head?_dropWhile_not (fun p : Point => p.is '/') r
      rw [← List.getLast?_reverse, last] at stop
      exact Bool.false_ne_true (stop.symm.trans ((slash p).mpr same))
  · rintro ⟨count, rfl, last⟩
    have all : ∀ p ∈ List.replicate count (Point.ofChar '/'), p.is '/' = true := fun p among =>
      (slash p).mpr (List.eq_of_mem_replicate among)
    rw [List.reverse_append, List.reverse_replicate, List.dropWhile_append_of_pos all]
    cases shape : url.reverse with
    | nil => exact (List.reverse_eq_nil_iff.mp shape).symm
    | cons p rest =>
      have head : url.getLast? = some p := by
        rw [← List.head?_reverse, shape]
        rfl
      rw [List.dropWhile_cons, if_neg (mt (slash p).mp (last p head)), ← shape,
        List.reverse_reverse]

theorem headerTexts_eq_ok_iff (entries : List (Text × Json)) (found : List (Text × Text)) :
    headerTexts entries = .ok found ↔ entries = found.map fun (name, t) => (name, .string t) := by
  induction entries generalizing found with
  | nil => cases found <;> simp [headerTexts]
  | cons entry entries ih =>
    obtain ⟨name, value⟩ := entry
    cases value with
    | string t =>
      rw [headerTexts]
      constructor
      · intro mapped
        cases rest : headerTexts entries with
        | error fault =>
          rw [rest] at mapped
          cases mapped
        | ok others =>
          rw [rest] at mapped
          obtain rfl := Except.ok.inj mapped
          rw [(ih others).mp rest]
          rfl
      · intro same
        cases found with
        | nil => cases same
        | cons first found =>
          obtain ⟨first_, rest⟩ := List.cons.inj same
          cases first_
          rw [(ih found).mpr rest]
          rfl
    | null | bool | int | float | array | object =>
      refine iff_of_false nofun fun same => ?_
      cases found <;> cases same

theorem headersOf_eq_ok_iff (member : Option Json) (found : List (Text × Text)) :
    headersOf member = .ok found ↔ (NotGiven member ∧ found = []) ∨ found ≠ [] ∧
      member = some (.object (found.map fun (name, t) => (name, .string t))) := by
  cases member with
  | none => simp [headersOf, NotGiven, eq_comm]
  | some value =>
    rw [notGiven_some]
    by_cases given : isGiven value = true
    · cases value with
      | object entries =>
        have exact_ : headersOf (some (.object entries)) = headerTexts entries := by
          simp only [headersOf, given, Bool.not_true, Bool.false_eq_true, if_false]
        rw [exact_, headerTexts_eq_ok_iff]
        constructor
        · rintro rfl
          refine .inr ⟨?_, rfl⟩
          rintro rfl
          cases given
        · rintro (⟨not, -⟩ | ⟨-, same⟩)
          · cases given.symm.trans not
          · exact Json.object.inj (Option.some.inj same)
      | null | bool | int | float | string | array => simp [headersOf, given]
    · have exact_ : headersOf (some value) = .ok [] := by
        simp only [headersOf, given, Bool.not_false, if_true]
      rw [exact_]
      constructor
      · intro same
        exact .inl ⟨Bool.not_eq_true _ ▸ given, (Except.ok.inj same).symm⟩
      · rintro (⟨-, rfl⟩ | ⟨some, same⟩)
        · rfl
        · rw [Option.some.inj same, isGiven, Bool.not_eq_true', Bool.not_eq_false,
            List.isEmpty_iff, List.map_eq_nil_iff] at given
          exact absurd given some

/-- A service whose address is given has the address without the slashes at its end. -/
theorem externalApiOf_given {t : Text} {headers : Option Json} {api : ExternalApi}
    (notEmpty : t ≠ []) (unslashed : Unslashed t api.url)
    (told : headersOf headers = .ok api.headers) :
    externalApiOf (some (.string t)) headers = .ok (some api) := by
  have given : isGiven (.string t) = true := by
    rw [isGiven, Bool.not_eq_true', List.isEmpty_eq_false_iff]
    exact notEmpty
  have stripped := (dropEndWhile_eq_iff t _).mpr unslashed
  simp [externalApiOf, given, told, Except.map, ExternalApi.ofUrl, stripped]

theorem externalApiOf_eq_ok_iff (url headers : Option Json) (api : Option ExternalApi) :
    externalApiOf url headers = .ok api ↔ Binds url headers api := by
  constructor
  · intro bound
    cases url with
    | none =>
      obtain rfl := Except.ok.inj bound
      exact .none notGiven_none
    | some value =>
      unfold externalApiOf at bound
      dsimp only at bound
      split at bound
      · next not =>
        obtain rfl := Except.ok.inj bound
        exact .none ((notGiven_some value).mpr (Bool.not_eq_true' _ ▸ not))
      next given =>
      split at bound
      · next t =>
        cases told : headersOf headers with
        | error fault =>
          rw [told] at bound
          cases bound
        | ok found =>
          rw [told] at bound
          obtain rfl := Except.ok.inj bound
          have notEmpty : t ≠ [] := by
            rintro rfl
            exact given rfl
          have unslashed := (dropEndWhile_eq_iff t _).mp rfl
          rcases (headersOf_eq_ok_iff headers found).mp told with ⟨not, none⟩ | ⟨some, same⟩
          · exact .bare rfl notEmpty unslashed not none
          · exact .headers rfl notEmpty unslashed some same
      · cases bound
  · intro binds
    cases binds with
    | none not =>
      cases url with
      | none => rfl
      | some value => simp [externalApiOf, (notGiven_some value).mp not]
    | @bare t api isText notEmpty unslashed not none =>
      rw [isText]
      exact externalApiOf_given notEmpty unslashed
        ((headersOf_eq_ok_iff headers api.headers).mpr (.inl ⟨not, none⟩))
    | @headers t api isText notEmpty unslashed some same =>
      rw [isText]
      exact externalApiOf_given notEmpty unslashed
        ((headersOf_eq_ok_iff headers api.headers).mpr (.inr ⟨some, same⟩))

/-- The fields of an invocation are read each for itself. -/
theorem ofMembers_eq_ok_iff (phase : Phase) (members : List (Text × Json)) (i : Invocation) :
    ofMembers (some phase) members = .ok i ↔ i.phase = phase ∧ Describes members i := by
  constructor
  · intro described
    unfold ofMembers at described
    simp only [bind, Except.bind, pure, Except.pure] at described
    split at described
    · cases described
    next source isSource =>
    split at described
    · cases described
    next module isModule =>
    split at described
    · cases described
    next environment isEnvironment =>
    split at described
    · cases described
    next api isApi =>
    cases described
    refine ⟨rfl, ?_, ?_, (environmentOf_eq_ok_iff _ _).mp isEnvironment,
      (externalApiOf_eq_ok_iff _ _ _).mp isApi, rfl⟩
    · rcases (optionalText_eq_ok_iff _ _ _).mp isSource with ⟨absent, rfl⟩ | ⟨t, found, rfl⟩
      · exact .inl ⟨absent, rfl⟩
      · exact .inr found
    · exact (optionalText_eq_ok_iff _ _ _).mp isModule
  · rintro ⟨isPhase, source, module, environment, externalApi, context⟩
    obtain ⟨told, isSource, same⟩ : ∃ told, optionalText .source (Json.get? members "code") =
        .ok told ∧ told.getD [] = i.source := by
      rcases source with ⟨absent, empty⟩ | found
      · exact ⟨none, (optionalText_eq_ok_iff _ _ _).mpr (.inl ⟨absent, rfl⟩), empty.symm⟩
      · exact ⟨some i.source, (optionalText_eq_ok_iff _ _ _).mpr (.inr ⟨_, found, rfl⟩), rfl⟩
    have isModule := (optionalText_eq_ok_iff .module _ _).mpr module
    have isEnvironment := (environmentOf_eq_ok_iff _ _).mpr environment
    have isApi := (externalApiOf_eq_ok_iff _ _ _).mpr externalApi
    unfold ofMembers
    simp only [isSource, isModule, isEnvironment, isApi, same, bind, Except.bind, pure, Except.pure]
    rw [← isPhase]
    unfold contextMembers at context
    rw [← context]

theorem exists_settings (members : List (Text × Json)) : ∃ told, Settings members told :=
  ⟨_, (environmentOf_object members _).mp rfl⟩

/-- An address has a text without the slashes at its end. -/
theorem exists_unslashed (t : Text) : ∃ url, Unslashed t url :=
  ⟨_, (dropEndWhile_eq_iff t _).mp rfl⟩

/-- Members that are all texts are those of a list of texts. -/
theorem exists_texts {entries : List (Text × Json)}
    (all : ∀ entry ∈ entries, ∃ t, entry.2 = .string t) :
    ∃ found : List (Text × Text), entries = found.map fun (name, t) => (name, .string t) := by
  induction entries with
  | nil => exact ⟨[], rfl⟩
  | cons entry entries ih =>
    rw [List.forall_mem_cons] at all
    obtain ⟨name, value⟩ := entry
    obtain ⟨⟨t, rfl⟩, others⟩ := all
    obtain ⟨found, rfl⟩ := ih others
    exact ⟨(name, t) :: found, rfl⟩

/-- There is a service that well-formed members bind to, or none. -/
theorem exists_binds {url headers : Option Json} (service : NotGiven url ∨
    (∃ t, url = some (.string t)) ∧ (NotGiven headers ∨
      ∃ entries, headers = some (.object entries) ∧ ∀ entry ∈ entries, ∃ t, entry.2 = .string t)) :
    ∃ api, Binds url headers api := by
  rcases service with not | ⟨⟨t, rfl⟩, given⟩
  · exact ⟨none, .none not⟩
  by_cases notEmpty : t = []
  · exact ⟨none, .none ((notGiven_some _).mpr (by rw [notEmpty]; rfl))⟩
  obtain ⟨base, unslashed⟩ := exists_unslashed t
  rcases given with not | ⟨entries, rfl, all⟩
  · exact ⟨some ⟨base, []⟩, .bare rfl notEmpty unslashed not rfl⟩
  obtain ⟨found, rfl⟩ := exists_texts all
  by_cases some_ : found = []
  · have not := (notGiven_some (.object [])).mpr rfl
    exact ⟨some ⟨base, []⟩, .bare rfl notEmpty unslashed (by rw [some_]; exact not) rfl⟩
  · exact ⟨some ⟨base, found⟩, .headers rfl notEmpty unslashed some_ rfl⟩

/-- There is an invocation for well-formed members only. -/
theorem exists_describes_iff (phase : Phase) (members : List (Text × Json)) :
    (∃ i, i.phase = phase ∧ Describes members i) ↔ WellFormed members := by
  constructor
  · rintro ⟨i, -, source, module, environment, externalApi, -⟩
    refine ⟨source.imp And.left fun found => ⟨_, found⟩,
      module.imp And.left fun ⟨t, found, _⟩ => ⟨t, found⟩,
      environment.imp And.left fun ⟨settings, found, _⟩ => ⟨settings, found⟩, ?_⟩
    generalize i.externalApi = api at externalApi
    cases externalApi with
    | none not => exact .inl not
    | bare isText _ _ not _ => exact .inr ⟨⟨_, isText⟩, .inl not⟩
    | headers isText _ _ _ same =>
      refine .inr ⟨⟨_, isText⟩, .inr ⟨_, same, fun entry among => ?_⟩⟩
      obtain ⟨header, -, rfl⟩ := List.mem_map.mp among
      exact ⟨header.2, rfl⟩
  · rintro ⟨code, module, env, service⟩
    obtain ⟨source, source_⟩ : ∃ source, (Absent (Json.get? members "code") ∧ source = []) ∨
        Json.get? members "code" = some (.string source) := by
      rcases code with absent | ⟨t, found⟩
      · exact ⟨[], .inl ⟨absent, rfl⟩⟩
      · exact ⟨t, .inr found⟩
    obtain ⟨tag, tag_⟩ : ∃ tag, (Absent (Json.get? members "module") ∧ tag = none) ∨
        ∃ t, Json.get? members "module" = some (.string t) ∧ tag = some t := by
      rcases module with absent | ⟨t, found⟩
      · exact ⟨none, .inl ⟨absent, rfl⟩⟩
      · exact ⟨some t, .inr ⟨t, found, rfl⟩⟩
    obtain ⟨told, told_⟩ : ∃ told, (Absent (Json.get? members "env") ∧ told = []) ∨
        ∃ settings, Json.get? members "env" = some (.object settings) ∧ Settings settings told := by
      rcases env with absent | ⟨settings, found⟩
      · exact ⟨[], .inl ⟨absent, rfl⟩⟩
      · obtain ⟨told, settings_⟩ := exists_settings settings
        exact ⟨told, .inr ⟨settings, found, settings_⟩⟩
    obtain ⟨api, binds⟩ := exists_binds service
    exact ⟨⟨phase, source, tag, told, api, contextMembers members⟩, rfl, source_, tag_, told_,
      binds, rfl⟩

/-- The phases by name, spelled out. -/
def phaseNames : List Text := ["validate", "request", "backend_call", "response", "error"]

theorem ofName?_eq_some_iff (name : Text) (phase : Phase) :
    Phase.ofName? name = some phase ↔ name = Text.ofString phase.name := by
  constructor
  · intro named
    have same := List.find?_some named
    exact eq_of_beq same
  · rintro rfl
    exact Phase.ofName?_name phase

theorem mem_phaseNames_iff (name : Text) :
    name ∈ phaseNames ↔ ∃ phase : Phase, name = Text.ofString phase.name := by
  constructor
  · intro among
    simp only [phaseNames, List.mem_cons, List.not_mem_nil, or_false] at among
    rcases among with rfl | rfl | rfl | rfl | rfl
    · exact ⟨.validate, rfl⟩
    · exact ⟨.request, rfl⟩
    · exact ⟨.backendCall, rfl⟩
    · exact ⟨.response, rfl⟩
    · exact ⟨.error, rfl⟩
  · rintro ⟨phase, rfl⟩
    cases phase <;> simp [phaseNames, Phase.name]

/-- A message is taken as the invocation that it describes. -/
theorem ofMessage_eq_ok_iff {t : Text}
    (usual : ∀ isArray, Json.read t ≠ .error (.tooDeep isArray)) (name : Text) (i : Invocation) :
    ofMessage (Phase.ofName? name) (.text t) = .ok i ↔ name = Text.ofString i.phase.name ∧
      ∃ members, Json.Denotes t (.object members) ∧ Describes members i := by
  simp only [← Json.read_eq_ok_iff usual]
  constructor
  · intro accepted
    cases named : Phase.ofName? name with
    | none =>
      rw [named] at accepted
      unfold ofMessage at accepted
      dsimp only [textOf] at accepted
      split at accepted <;> cases accepted
    | some phase =>
      rw [named] at accepted
      unfold ofMessage at accepted
      dsimp only [textOf] at accepted
      split at accepted
      · cases accepted
      · next members reads =>
        obtain ⟨rfl, describes⟩ := (ofMembers_eq_ok_iff phase members i).mp accepted
        exact ⟨(ofName?_eq_some_iff name i.phase).mp named, members, reads, describes⟩
      · cases accepted
  · rintro ⟨named, members, reads, describes⟩
    rw [(ofName?_eq_some_iff name i.phase).mpr named, ofMessage]
    dsimp only [textOf]
    rw [reads]
    exact (ofMembers_eq_ok_iff i.phase members i).mpr ⟨rfl, describes⟩

/-- Whether a fault is of the phase or of a member. -/
def Fault.isOfMember : Fault → Bool
  | .encoding _ | .json _ _ | .notObject => false
  | .phase | .source | .module | .environment | .url | .headers | .header _ => true

theorem headerTexts_error {entries : List (Text × Json)} {fault : Fault}
    (refused : headerTexts entries = .error fault) : fault.isOfMember = true := by
  induction entries with
  | nil => cases refused
  | cons entry entries ih =>
    obtain ⟨name, value⟩ := entry
    cases value with
    | string t =>
      rw [headerTexts] at refused
      cases rest : headerTexts entries with
      | error fault' =>
        rw [rest] at refused
        obtain rfl := Except.error.inj refused
        exact ih rest
      | ok found =>
        rw [rest] at refused
        cases refused
    | null | bool | int | float | array | object =>
      obtain rfl := Except.error.inj refused
      rfl

theorem externalApiOf_error {url headers : Option Json} {fault : Fault}
    (refused : externalApiOf url headers = .error fault) : fault.isOfMember = true := by
  have ofHeaders {fault : Fault} (refused : headersOf headers = .error fault) :
      fault.isOfMember = true := by
    unfold headersOf at refused
    split at refused
    · cases refused
    split at refused
    · cases refused
    split at refused
    · exact headerTexts_error refused
    · obtain rfl := Except.error.inj refused
      rfl
  unfold externalApiOf at refused
  split at refused
  · cases refused
  split at refused
  · cases refused
  split at refused
  · cases told : headersOf headers with
    | error fault' =>
      rw [told] at refused
      obtain rfl := Except.error.inj refused
      exact ofHeaders told
    | ok found =>
      rw [told] at refused
      cases refused
  · obtain rfl := Except.error.inj refused
    rfl

theorem optionalText_error {kind fault : Fault} {member : Option Json}
    (isOfMember : kind.isOfMember = true) (refused : optionalText kind member = .error fault) :
    fault.isOfMember = true := by
  unfold optionalText at refused
  split at refused
  · cases refused
  · cases refused
  · cases refused
  · obtain rfl := Except.error.inj refused
    exact isOfMember

theorem environmentOf_error {fault : Fault} {member : Option Json}
    (refused : environmentOf member = .error fault) : fault.isOfMember = true := by
  unfold environmentOf at refused
  split at refused
  · cases refused
  · cases refused
  · cases refused
  · obtain rfl := Except.error.inj refused
    rfl

/-- What is wrong with the members of a message is told by the member. -/
theorem ofMembers_error {phase : Option Phase} {members : List (Text × Json)} {fault : Fault}
    (refused : ofMembers phase members = .error fault) : fault.isOfMember = true := by
  cases phase with
  | none =>
    cases refused
    rfl
  | some phase =>
    unfold ofMembers at refused
    simp only [bind, Except.bind, pure, Except.pure] at refused
    split at refused
    · next source =>
      obtain rfl := Except.error.inj refused
      exact optionalText_error rfl source
    split at refused
    · next module =>
      obtain rfl := Except.error.inj refused
      exact optionalText_error rfl module
    split at refused
    · next environment =>
      obtain rfl := Except.error.inj refused
      exact environmentOf_error environment
    split at refused
    · next api =>
      obtain rfl := Except.error.inj refused
      exact externalApiOf_error api
    · cases refused

/-- A fault is told in the words of an invocation, unless the message is too deep to be read. -/
theorem failure_of_fault {t : Text} (usual : ∀ isArray, Json.read t ≠ .error (.tooDeep isArray))
    {phase : Option Phase} {fault : Fault} (refused : ofMessage phase (.text t) = .error fault) :
    fault.failure = ⟨.decodeError, "invalid invocation payload: " ++ fault.detail⟩ := by
  unfold Fault.failure
  split
  · next whole isArray =>
    unfold ofMessage at refused
    dsimp only [textOf] at refused
    split at refused
    · next refusal reads =>
      cases refused
      exact absurd reads (usual isArray)
    · cases ofMembers_error refused
    · cases refused
  · rfl

/-- A script is given no channel to the service where no address is given, or only slashes. -/
theorem Describes.of?_eq_none_iff {members : List (Text × Json)} {i : Invocation}
    (describes : Describes members i) : Rpc.Channel.of? i.externalApi i.module = none ↔
      NotGiven (Json.get? members "externalApiUrl") ∨ ∃ count,
        Json.get? members "externalApiUrl" =
          some (.string (List.replicate count (Point.ofChar '/'))) := by
  have bound {t url : Text} (unslashed : Unslashed t url) (notEmpty : t ≠ []) :
      url = [] ↔ NotGiven (some (.string t)) ∨ ∃ count, some (Json.string t) =
        some (.string (List.replicate count (Point.ofChar '/'))) := by
    have given : ¬ NotGiven (some (.string t)) := by
      rw [notGiven_some, isGiven, Bool.not_eq_false', List.isEmpty_iff]
      exact notEmpty
    obtain ⟨count, rfl, last⟩ := unslashed
    constructor
    · rintro rfl
      exact .inr ⟨count, rfl⟩
    · rintro (not | ⟨count', same⟩)
      · exact absurd not given
      · refine List.getLast?_eq_none_iff.mp
          (Option.eq_none_iff_forall_ne_some.mpr fun p isLast => ?_)
        have all := Json.string.inj (Option.some.inj same)
        exact last p isLast (List.eq_of_mem_replicate (all ▸
          List.mem_append_left _ (List.mem_of_getLast? isLast)))
  have binds := describes.externalApi
  generalize i.externalApi = api at binds
  cases binds with
  | none not => exact iff_of_true rfl (.inl not)
  | bare isText notEmpty unslashed _ _ | headers isText notEmpty unslashed _ _ =>
    rw [isText, ← bound unslashed notEmpty, Rpc.Channel.of?]
    split
    · next empty => exact iff_of_true rfl (List.isEmpty_iff.mp empty)
    · next some =>
      exact iff_of_false (Option.some_ne_none _) fun empty => some (List.isEmpty_iff.mpr empty)

/-- The messages that are accepted are those that are well-formed, for one of the five phases. Such
a message is taken as the invocation that it describes; any other is refused with one kind of
failure, whose words say at once that it is about an invocation. -/
theorem accepts_wellFormed (name t : Text)
    (usual : ∀ isArray, Json.read t ≠ .error (.tooDeep isArray)) :
    ((∃ i, ofMessage (Phase.ofName? name) (.text t) = .ok i) ↔
      name ∈ phaseNames ∧ ∃ members, Json.Denotes t (.object members) ∧ WellFormed members) ∧
    (∀ i, ofMessage (Phase.ofName? name) (.text t) = .ok i → name = Text.ofString i.phase.name ∧
      ∃ members, Json.Denotes t (.object members) ∧ Describes members i ∧
        (Rpc.Channel.of? i.externalApi i.module = none ↔
          NotGiven (Json.get? members "externalApiUrl") ∨ ∃ count,
            Json.get? members "externalApiUrl" =
              some (.string (List.replicate count (Point.ofChar '/'))))) ∧
    (∀ fault, ofMessage (Phase.ofName? name) (.text t) = .error fault →
      ∃ detail, fault.failure = ⟨.decodeError, "invalid invocation payload: " ++ detail⟩) := by
  refine ⟨?_, fun i accepted => ?_, fun fault refused =>
    ⟨fault.detail, failure_of_fault usual refused⟩⟩
  · rw [mem_phaseNames_iff]
    constructor
    · rintro ⟨i, accepted⟩
      obtain ⟨named, members, denotes, describes⟩ := (ofMessage_eq_ok_iff usual name i).mp accepted
      exact ⟨⟨i.phase, named⟩, members, denotes,
        (exists_describes_iff i.phase members).mp ⟨i, rfl, describes⟩⟩
    · rintro ⟨⟨phase, named⟩, members, denotes, wellFormed⟩
      obtain ⟨i, rfl, describes⟩ := (exists_describes_iff phase members).mpr wellFormed
      exact ⟨i, (ofMessage_eq_ok_iff usual name i).mpr ⟨named, members, denotes, describes⟩⟩
  · obtain ⟨named, members, denotes, describes⟩ := (ofMessage_eq_ok_iff usual name i).mp accepted
    exact ⟨named, members, denotes, describes, describes.of?_eq_none_iff⟩

/-- A message with a setting that is unset, an address that ends with slashes, and headers that
count as not given. -/
def boundSample : Text :=
  "\x7b\"code\": null, \"env\": \x7b\"A\": -0.5e1, \"B\": null\x7d, " ++
  "\"externalApiUrl\": \"http:\\/\\u002fa//\", \"externalApiHeaders\": 0.0, \"x\": NaN\x7d"

/-- Whether a message is accepted with settings and a service. -/
def isAcceptedWith (settings : List (Text × Text)) (api : Option ExternalApi) :
    Except Fault Invocation → Bool
  | .ok i => decide (i.environment = settings ∧ i.externalApi = api)
  | .error _ => false

/-- The message is read, is well-formed, and binds its script to a service. -/
theorem boundSample_accepted :
    (∀ isArray, Json.read boundSample ≠ .error (.tooDeep isArray)) ∧
      ("backend_call" : Text) ∈ phaseNames ∧
      ∃ members i, Json.Denotes boundSample (.object members) ∧ Describes members i ∧
        ofMessage (Phase.ofName? "backend_call") (.text boundSample) = .ok i ∧
        i.environment = [(("A" : Text), ("-5.0" : Text))] ∧
        i.externalApi = some ⟨"http://a", []⟩ := by
  have found : isAcceptedWith [("A", "-5.0")] (some ⟨"http://a", []⟩)
      (ofMessage (Phase.ofName? "backend_call") (.text boundSample)) = true := by
    decide +kernel
  have reads : (Json.read boundSample).isOk = true := by decide +kernel
  have usual (isArray : Bool) : Json.read boundSample ≠ .error (.tooDeep isArray) := by
    intro deep
    rw [deep] at reads
    cases reads
  unfold isAcceptedWith at found
  split at found
  · next i accepted =>
    obtain ⟨wellFormed, described, -⟩ := accepts_wellFormed "backend_call" boundSample usual
    obtain ⟨named, -⟩ := wellFormed.mp ⟨i, accepted⟩
    obtain ⟨-, members, denotes, describes, -⟩ := described i accepted
    exact ⟨usual, named, members, i, denotes, describes, accepted, of_decide_eq_true found⟩
  · cases found

/-- An object begins with a brace and, behind blanks, a brace or a quote. -/
theorem opens_of_read {t : Text} {members : List (Text × Json)}
    (reads : Json.read t = .ok (.object members)) : t.Opens := by
  have plain {p : Point} (blank : Json.Grammar.IsBlank p) : 0 < p.val ∧ p.val < 128 := by
    rcases blank with isBlank | isBlank | isBlank | isBlank <;> rw [isBlank] <;> decide
  have begins (before behind rest : Text) (brace mark : Point)
      (isBefore : Json.Grammar.Blanks before) (isBehind : Json.Grammar.Blanks behind)
      (isBrace : 0 < brace.val ∧ brace.val < 128) (isMark : 0 < mark.val ∧ mark.val < 128) :
      Text.Opens (before ++ brace :: (behind ++ mark :: rest)) := by
    match before, behind with
    | [], [] => exact ⟨brace, mark, _, rfl, isBrace, isMark⟩
    | [], q :: _ => exact ⟨brace, q, _, rfl, isBrace, plain (isBehind q List.mem_cons_self)⟩
    | [p], _ => exact ⟨p, brace, _, rfl, plain (isBefore p List.mem_cons_self), isBrace⟩
    | p :: q :: _, _ =>
      exact ⟨p, q, _, rfl, plain (isBefore p List.mem_cons_self),
        plain (isBefore q (List.mem_cons_of_mem p List.mem_cons_self))⟩
  obtain ⟨value, rest, ⟨before, isBefore, rfl⟩, isValue, -⟩ := Json.denotes_of_read reads
  cases isValue with
  | number number => cases number
  | noMembers gap =>
    obtain ⟨behind, isBehind, rfl⟩ := gap
    exact begins before behind _ _ _ isBefore isBehind (by decide) (by decide)
  | object gap hasMembers =>
    obtain ⟨behind, isBehind, rfl⟩ := gap
    cases hasMembers <;> exact begins before behind _ _ _ isBefore isBehind (by decide) (by decide)

/-- An object begins with a brace or with a blank before it. -/
theorem head_of_read {t : Text} {members : List (Text × Json)}
    (reads : Json.read t = .ok (.object members)) :
    ∃ p rest, t = p :: rest ∧ (p = Point.ofChar '\x7b' ∨ Json.Grammar.IsBlank p) := by
  obtain ⟨value, rest, ⟨before, isBefore, rfl⟩, isValue, -⟩ := Json.denotes_of_read reads
  cases before with
  | cons p before => exact ⟨p, _, rfl, .inr (isBefore p List.mem_cons_self)⟩
  | nil =>
    cases isValue with
    | number number => cases number
    | noMembers | object => exact ⟨_, _, rfl, .inl rfl⟩

/-- A message that is accepted as a text is accepted as the same invocation in octets of any
encoding, with its mark or without. -/
theorem ofMessage_encode (phase : Option Phase) {raw : Text} {i : Invocation}
    (scalar : raw.isScalar = true) (accepted : ofMessage phase (.text raw) = .ok i)
    (encoding : Encoding) (marked : Bool) :
    ofMessage phase (.bytes ((if marked then encoding.mark else []) ++ encoding.encode raw)) =
      .ok i := by
  have opens : raw.Opens := by
    unfold ofMessage at accepted
    dsimp only [textOf] at accepted
    split at accepted
    · cases accepted
    · next members reads => exact opens_of_read reads
    · cases accepted
  have decoded : textOf (.bytes ((if marked then encoding.mark else []) ++ encoding.encode raw)) =
      .ok raw := by
    simp only [textOf, Encoding.decodeMessage_encode encoding marked scalar opens]
  rw [← accepted, ofMessage, ofMessage, decoded]
  rfl

/-- A message in UTF-16 with its mark. -/
theorem ofMessage_encode_marked : ∃ i : Invocation, i.source = "é" ∧
    ofMessage (some .request) (.text "\x7b\"code\": \"é\"\x7d") = .ok i ∧
    ofMessage (some .request) (.bytes ((Encoding.utf16 true).mark ++
      (Encoding.utf16 true).encode "\x7b\"code\": \"é\"\x7d")) = .ok i := by
  have found : (match ofMessage (some .request) (.text "\x7b\"code\": \"é\"\x7d") with
      | .ok i => decide (i.source = "é")
      | .error _ => false) = true := by
    decide +kernel
  split at found
  · next i accepted =>
    have scalar : Text.isScalar "\x7b\"code\": \"é\"\x7d" = true := by decide
    exact ⟨i, of_decide_eq_true found, accepted,
      ofMessage_encode (some .request) scalar accepted (.utf16 true) true⟩
  · cases found

end Invocation

end PhaseScript
