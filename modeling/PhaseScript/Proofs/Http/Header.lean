import PhaseScript.Http.Client
import PhaseScript.Proofs.Table
/-
Headers under their names, in which the case of letters does not count. A header that is put
replaces one of the very same spelling only, so two spellings of a name may come to stand side by
side.
-/
set_option autoImplicit false

namespace PhaseScript.Http

/-- Whether two names are those of one header. -/
def sameName (a b : Text) : Bool := a.asciiLower == b.asciiLower

/-- The values that headers carry under a name. -/
def valuesOf (headers : Headers) (name : Text) : List Text :=
  (headers.filter fun header => sameName header.1 name).map (·.2)

/-- The first header of a name, in the spelling in which it stands there. -/
def headerOf? (headers : Headers) (name : Text) : Option (Text × Text) :=
  headers.find? fun header => sameName header.1 name

/-- Headers in which every name comes once, whatever the case of its letters. -/
def Distinct (headers : Headers) : Prop := (headers.map fun header => header.1.asciiLower).Nodup

/-- Headers with others put after them. -/
def withHeaders (headers given : Headers) : Headers :=
  given.foldl (fun headers header => putHeader header.1 header.2 headers) headers

/-- The values that a request carries under a name, as whoever gets it reads them. -/
def Request.valuesOf (request : Request) (name : Text) : List Text :=
  Http.valuesOf (request.headers.map fun header => (header.1.plain, header.2.plain)) name

theorem sameName_iff {a b : Text} : sameName a b = true ↔ a.asciiLower = b.asciiLower := beq_iff_eq

theorem putHeader_eq_put (name value : Text) (headers : Headers) :
    putHeader name value headers = Table.put name value headers := by
  induction headers with
  | nil => rfl
  | cons header rest ih => rw [putHeader, Table.put, ih]

theorem withHeaders_cons (headers : Headers) (header : Text × Text) (given : Headers) :
    withHeaders headers (header :: given) =
      withHeaders (Table.put header.1 header.2 headers) given := by
  rw [← putHeader_eq_put]
  rfl

/-- Of the headers under a name, those that are put change only the ones under that name. -/
theorem filter_withHeaders (headers given : Headers) (name : Text) :
    (withHeaders headers given).filter (fun header => sameName header.1 name) =
      withHeaders (headers.filter fun header => sameName header.1 name)
        (given.filter fun header => sameName header.1 name) := by
  induction given generalizing headers with
  | nil => rfl
  | cons header rest ih =>
    rw [withHeaders_cons, ih, Table.filter_put headers fun given => sameName given name,
      List.filter_cons]
    by_cases same : sameName header.1 name = true
    · rw [if_pos same, if_pos same, withHeaders_cons]
    · rw [if_neg same, if_neg same]

section Distinct

variable {headers : Headers} (distinct : Distinct headers)

include distinct

/-- Under each name there is at most one header. -/
theorem filter_of_distinct (name : Text) :
    headers.filter (fun header => sameName header.1 name) = (headerOf? headers name).toList := by
  induction headers with
  | nil => rfl
  | cons header rest ih =>
    obtain ⟨new, others⟩ := List.nodup_cons.mp distinct
    rw [List.filter_cons, headerOf?, List.find?_cons]
    cases same : sameName header.1 name with
    | false => exact ih others
    | true =>
      have none : rest.filter (fun other => sameName other.1 name) = [] := by
        rw [List.filter_eq_nil_iff]
        intro other among again
        refine new (List.mem_map.mpr ⟨other, among, ?_⟩)
        exact (sameName_iff.mp again).trans (sameName_iff.mp same).symm
      rw [none]
      rfl

/-- A header is the one of its name. -/
theorem headerOf?_eq_some_iff (name : Text) (header : Text × Text) :
    headerOf? headers name = some header ↔ header ∈ headers ∧ sameName header.1 name = true := by
  have among : header ∈ headers.filter (fun header => sameName header.1 name) ↔
      header ∈ (headerOf? headers name).toList := by rw [filter_of_distinct distinct]
  rw [List.mem_filter, Option.mem_toList] at among
  exact among.symm

end Distinct

/-- What is carried under a name of which there is a header before, and of which one is put. -/
def carried : Option (Text × Text) → Option (Text × Text) → List Text
  | some (spelling, before), some (name, value) =>
    if spelling = name then [value] else [before, value]
  | some (_, before), none => [before]
  | none, some (_, value) => [value]
  | none, none => []

/-- What would be carried if the header that is put replaced every other spelling of its name. -/
def preferred : Option (Text × Text) → Option (Text × Text) → List Text
  | _, some (_, value) => [value]
  | some (_, before), none => [before]
  | none, none => []

theorem carried_eq_preferred_iff (before given : Option (Text × Text)) :
    carried before given = preferred before given ↔
      ∀ h ∈ before, ∀ g ∈ given, g.1 = h.1 := by
  cases before with
  | none => cases given <;> exact ⟨fun _ _ among => (nomatch among), fun _ => rfl⟩
  | some h =>
    cases given with
    | none => exact ⟨fun _ _ _ _ among => (nomatch among), fun _ => rfl⟩
    | some g =>
      simp only [carried, preferred, Option.mem_def, Option.some.injEq, forall_eq']
      by_cases same : h.1 = g.1
      · simp [same]
      · have other : ¬ g.1 = h.1 := fun equal => same equal.symm
        simp [same, other]

/-- Of two distinct sets of headers, one put after the other, a name is carried once or in two
spellings, the one that was there first. -/
theorem valuesOf_withHeaders {headers given : Headers} (distinct : Distinct headers)
    (distinct' : Distinct given) (name : Text) :
    valuesOf (withHeaders headers given) name =
      carried (headerOf? headers name) (headerOf? given name) := by
  rw [valuesOf, filter_withHeaders, filter_of_distinct distinct, filter_of_distinct distinct']
  cases headerOf? headers name with
  | none => cases headerOf? given name <;> rfl
  | some h =>
    cases headerOf? given name with
    | none => rfl
    | some g =>
      simp only [Option.toList, withHeaders, List.foldl_cons, List.foldl_nil, putHeader, carried,
        beq_iff_eq]
      split <;> rfl

/-- Headers that are put replace every other spelling exactly if there is none. -/
theorem carried_preferred_iff {headers given : Headers} (distinct : Distinct headers)
    (distinct' : Distinct given) :
    (∀ name, carried (headerOf? headers name) (headerOf? given name) =
        preferred (headerOf? headers name) (headerOf? given name)) ↔
      ∀ h ∈ headers, ∀ g ∈ given, sameName g.1 h.1 = true → g.1 = h.1 := by
  simp only [carried_eq_preferred_iff, Option.mem_def, headerOf?_eq_some_iff distinct,
    headerOf?_eq_some_iff distinct']
  constructor
  · intro alike h among g among' same
    exact alike h.1 h ⟨among, sameName_iff.mpr rfl⟩ g ⟨among', same⟩
  · rintro alike name h ⟨among, named⟩ g ⟨among', named'⟩
    refine alike h among g among' (sameName_iff.mpr ?_)
    exact (sameName_iff.mp named').trans (sameName_iff.mp named).symm

end PhaseScript.Http
