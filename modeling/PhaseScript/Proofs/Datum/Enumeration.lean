import PhaseScript.Proofs.Datum.Safe
import PhaseScript.Proofs.Text.Basic
/-
The order in which a set gives out its items. The forms of the items are put in the order of the
items' texts, and those of items with one text stay in the order in which the items came. So a set
has one form, in whatever order it gives out its items, exactly if items with one text have one
form.
-/
set_option autoImplicit false

namespace PhaseScript.Datum

/-- The forms of items beside the texts that they are ordered by, in that order. -/
def formsInOrder (items : List Datum) : List (Text × Json) :=
  (items.map fun item => (plain item, jsonSafe item)).mergeSort fun a b => Text.le a.1 b.1

theorem jsonSafe_set (frozen : Bool) (items : List Datum) :
    jsonSafe (.set frozen items) = .array ((formsInOrder items).map (·.2)) := by
  rw [jsonSafe, textsAndForms_eq_map, formsInOrder]

section InOrder

variable {items others : List Datum}

theorem formsInOrder_perm (items : List Datum) :
    (formsInOrder items).Perm (items.map fun item => (plain item, jsonSafe item)) :=
  List.mergeSort_perm _ _

theorem pairwise_formsInOrder (items : List Datum) :
    (formsInOrder items).Pairwise fun a b => Text.le a.1 b.1 = true :=
  List.pairwise_mergeSort (fun a b c => Text.le_trans a.1 b.1 c.1)
    (fun a b => Text.le_total a.1 b.1) _

theorem formsInOrder_perm_of_perm (perm : others.Perm items) :
    (formsInOrder others).Perm (formsInOrder items) :=
  (formsInOrder_perm others).trans ((perm.map _).trans (formsInOrder_perm items).symm)

/-- The texts come in one order, however the items come. -/
theorem texts_formsInOrder (perm : others.Perm items) :
    (formsInOrder others).map (·.1) = (formsInOrder items).map (·.1) :=
  List.Perm.eq_of_pairwise (fun a b _ _ => Text.le_antisymm a b)
    (List.pairwise_map.mpr (pairwise_formsInOrder others))
    (List.pairwise_map.mpr (pairwise_formsInOrder items))
    ((formsInOrder_perm_of_perm perm).map _)

/-- Items that come in the order of their texts keep their places. -/
theorem jsonSafe_set_of_pairwise (frozen : Bool) (items : List Datum)
    (ordered : items.Pairwise fun a b => Text.le (plain a) (plain b) = true) :
    jsonSafe (.set frozen items) = .array (items.map jsonSafe) := by
  have kept : (items.map fun item => (plain item, jsonSafe item)).mergeSort
      (fun a b => Text.le a.1 b.1) = items.map fun item => (plain item, jsonSafe item) :=
    List.mergeSort_of_pairwise (List.pairwise_map.mpr ordered)
  rw [jsonSafe_set, formsInOrder, kept, List.map_map]
  rfl

/-- The forms of items with one text stay in the order in which the items come. -/
theorem filter_formsInOrder (items : List Datum) (t : Text) :
    (formsInOrder items).filter (·.1 == t) =
      (items.map fun item => (plain item, jsonSafe item)).filter (·.1 == t) := by
  let forms := items.map fun item => (plain item, jsonSafe item)
  have tied : (forms.filter (·.1 == t)).Pairwise fun a b => Text.le a.1 b.1 = true := by
    refine List.Pairwise.imp_of_mem (R := fun _ _ => True) (fun among among' _ => ?_)
      (List.pairwise_of_forall fun _ _ => trivial)
    rw [eq_of_beq (List.mem_filter.mp among).2, eq_of_beq (List.mem_filter.mp among').2]
    simpa using Text.le_total t t
  have kept : (forms.filter (·.1 == t)).Sublist (formsInOrder items) :=
    List.sublist_mergeSort (fun a b c => Text.le_trans a.1 b.1 c.1)
      (fun a b => Text.le_total a.1 b.1) tied List.filter_sublist
  have all := kept.filter (·.1 == t)
  rw [List.filter_filter] at all
  simp only [Bool.and_self] at all
  exact (all.eq_of_length ((formsInOrder_perm items).filter _).length_eq.symm).symm

/-- Two enumerations of a set have one form if the forms stand beside the same texts. -/
theorem jsonSafe_set_eq_iff (frozen : Bool) (perm : others.Perm items) :
    jsonSafe (.set frozen others) = jsonSafe (.set frozen items) ↔
      formsInOrder others = formsInOrder items := by
  rw [jsonSafe_set, jsonSafe_set, Json.array.injEq]
  constructor
  · intro forms
    exact (List.zip_of_prod (texts_formsInOrder perm) forms).trans (List.zip_of_prod rfl rfl).symm
  · exact congrArg _

/-- The form of an item is the first of those with its text if the item comes first. -/
theorem head?_filter_formsInOrder (item : Datum) (items : List Datum) :
    ((formsInOrder (item :: items)).filter (·.1 == plain item)).head? =
      some (plain item, jsonSafe item) := by
  rw [filter_formsInOrder, List.map_cons, List.filter_cons_of_pos (by exact beq_self_eq_true _),
    List.head?_cons]

/-- Every item can be the one that comes first. -/
theorem exists_perm_cons {item : Datum} (among : item ∈ items) :
    ∃ rest, (item :: rest).Perm items := by
  obtain ⟨before, behind, rfl⟩ := List.append_of_mem among
  exact ⟨before ++ behind, List.perm_middle.symm⟩

/-- Where items with one text have one form, the forms come in one order, however the items come. -/
theorem formsInOrder_eq_of_perm (perm : others.Perm items)
    (ties : ∀ a ∈ items, ∀ b ∈ items, plain a = plain b → jsonSafe a = jsonSafe b) :
    formsInOrder others = formsInOrder items := by
  have isForm {entry : Text × Json} (among : entry ∈ formsInOrder items) :
      ∃ item ∈ items, (plain item, jsonSafe item) = entry :=
    List.mem_map.mp ((formsInOrder_perm items).mem_iff.mp among)
  have perm' := formsInOrder_perm_of_perm perm
  refine List.Perm.eq_of_pairwise (fun entry entry' among among' before behind => ?_)
    (pairwise_formsInOrder others) (pairwise_formsInOrder items) perm'
  obtain ⟨a, isItem, rfl⟩ := isForm (perm'.mem_iff.mp among)
  obtain ⟨b, isItem', rfl⟩ := isForm among'
  have same := Text.le_antisymm _ _ before behind
  exact Prod.ext same (ties a isItem b isItem' same)

end InOrder

section Writable

variable {items others : List Datum}

theorem anyHuge_of_perm (perm : others.Perm items) : anyHuge others = anyHuge items := by
  induction perm with
  | nil => rfl
  | cons item _ ih => rw [anyHuge, anyHuge, ih]
  | swap a b rest => simp only [anyHuge, Bool.or_left_comm]
  | trans _ _ ih ih' => exact ih.trans ih'

theorem anyCycle_of_perm (perm : others.Perm items) : anyCycle others = anyCycle items := by
  induction perm with
  | nil => rfl
  | cons item _ ih => rw [anyCycle, anyCycle, ih]
  | swap a b rest => simp only [anyCycle, Bool.or_left_comm]
  | trans _ _ ih ih' => exact ih.trans ih'

theorem depthOfAll_of_perm (perm : others.Perm items) : depthOfAll others = depthOfAll items := by
  induction perm with
  | nil => rfl
  | cons item _ ih => rw [depthOfAll, depthOfAll, ih]
  | swap a b rest => simp only [depthOfAll, max_left_comm]
  | trans _ _ ih ih' => exact ih.trans ih'

theorem marshal_set (frozen : Bool) (items : List Datum) :
    marshal (.set frozen items) = toEnvelope (.set frozen items) := rfl

/-- A shallow set without huge integers is written as its form is. -/
theorem marshal_set_of_form {frozen : Bool} {form : Json} {t : Text}
    (shallow : isTooDeep (.set frozen items) = false)
    (short : hasHugeInt (.set frozen items) = false)
    (isForm : jsonSafe (.set frozen items) = form)
    (written : Json.write .spaced true form = .ok t) : marshal (.set frozen items) = .ok t := by
  rw [marshal_set, toEnvelope, if_neg (Bool.not_eq_true _ ▸ shallow), dumps,
    if_neg (Bool.not_eq_true _ ▸ short), isForm, written]

/-- Two enumerations of a set that have one form are written in one text, or fail in one way. -/
theorem marshal_set_congr {frozen : Bool} (perm : others.Perm items)
    (form : jsonSafe (.set frozen others) = jsonSafe (.set frozen items)) :
    marshal (.set frozen others) = marshal (.set frozen items) := by
  have deep : isTooDeep (.set frozen others) = isTooDeep (.set frozen items) := by
    rw [isTooDeep, isTooDeep, hasCycle, hasCycle, depth, depth, anyCycle_of_perm perm,
      depthOfAll_of_perm perm]
  have texts : dumps (.set frozen others) = dumps (.set frozen items) := by
    rw [dumps, dumps, hasHugeInt, hasHugeInt, anyHuge_of_perm perm, form]
  rw [marshal_set, marshal_set, toEnvelope, toEnvelope, deep, texts]

end Writable

/-- The form of a set is the same in whatever order its items come exactly if items with one text
have one form, and then so is the text that it is written in. -/
theorem jsonSafe_set_orderFree_iff (frozen : Bool) (items : List Datum) :
    ((∀ others, others.Perm items →
        jsonSafe (.set frozen others) = jsonSafe (.set frozen items)) ↔
      ∀ a ∈ items, ∀ b ∈ items, plain a = plain b → jsonSafe a = jsonSafe b) ∧
    ((∀ a ∈ items, ∀ b ∈ items, plain a = plain b → jsonSafe a = jsonSafe b) →
      ∀ others, others.Perm items →
        marshal (.set frozen others) = marshal (.set frozen items)) := by
  refine ⟨⟨fun free a among b among' tie => ?_, fun ties others perm => ?_⟩,
    fun ties others perm => ?_⟩
  · -- Each of the two comes first in some order, and is then the first one with its text.
    obtain ⟨rest, perm⟩ := exists_perm_cons among
    obtain ⟨rest', perm'⟩ := exists_perm_cons among'
    have first := head?_filter_formsInOrder a rest
    have first' := head?_filter_formsInOrder b rest'
    rw [(jsonSafe_set_eq_iff frozen perm).mp (free _ perm)] at first
    rw [(jsonSafe_set_eq_iff frozen perm').mp (free _ perm'), ← tie] at first'
    exact congrArg Prod.snd (Option.some.inj (first.symm.trans first'))
  · exact (jsonSafe_set_eq_iff frozen perm).mpr (formsInOrder_eq_of_perm perm ties)
  · exact marshal_set_congr perm
      ((jsonSafe_set_eq_iff frozen perm).mpr (formsInOrder_eq_of_perm perm ties))

/-- Zero, and an error that says zero. -/
def zeroAndItsText : List Datum := [.int 0, .exception .valueError [.int 0] []]

/-- A set of the two is written in two ways. -/
theorem zeroAndItsText_depends_on_order :
    marshal (.set false zeroAndItsText) = .ok "[0, \"0\"]" ∧
      marshal (.set false zeroAndItsText.reverse) = .ok "[\"0\", 0]" ∧
      ¬ ∀ others, others.Perm zeroAndItsText →
        jsonSafe (.set false others) = jsonSafe (.set false zeroAndItsText) := by
  have form := jsonSafe_set_of_pairwise false zeroAndItsText (by decide +kernel)
  have form' := jsonSafe_set_of_pairwise false zeroAndItsText.reverse
    (by decide +kernel)
  refine ⟨marshal_set_of_form (by decide +kernel) (by decide +kernel) form (by decide +kernel),
    marshal_set_of_form (by decide +kernel) (by decide +kernel) form' (by decide +kernel),
    fun free => ?_⟩
  · have same := (jsonSafe_set_orderFree_iff false zeroAndItsText).1.mp free (.int 0)
      List.mem_cons_self (.exception .valueError [.int 0] [])
      (List.mem_cons_of_mem _ List.mem_cons_self) (by decide +kernel)
    cases same

end PhaseScript.Datum
