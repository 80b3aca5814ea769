import RuntimeTypes.Class.Registry
import RuntimeTypes.Proofs.Classification

/-!
# One name for instances, declarations and type texts

Objects, declarations and type texts bring names to normal form each in its own way: a new object
drops one leading separator and does not trim, the other two trim first. All of them agree on class
names, because a class name has no white space at its ends and no separator in front. That rests on
two facts about the tables of letters and numbers: no white space is in them, and none of the
separator and the parentheses is.
-/

namespace RuntimeTypes

open Unicode (isWhiteSpace)

variable {c n k : String}

namespace Token

theorem parse_eq_named_iff :
    parse c = .ok (.named n) ↔ Name.normalize c = n ∧ Name.isClassName n = true := by
  rw [parse_eq_ok_iff, spells_named_iff, ← String.toList_inj, Name.normalize, String.toList_ofList,
    bare]

theorem parse_resource_iff :
    parse ("resource (" ++ k ++ ")") = .ok (.resource k) ↔ Name.isResourceKind k = true := by
  have text : ("resource (" ++ k ++ ")").toList = resourceOpening.toList ++ k.toList ++ [')'] := by
    simp [resourceOpening]
  rw [parse_eq_ok_iff, text]
  constructor
  · exact fun spells => (spells_resource_iff.1 spells).2
  · intro valid
    have spells := spells_resource_iff.2 ⟨rfl, valid⟩
    rwa [spells.bare_eq]

end Token

namespace Heap

/-! ## What instances can be made -/

theorem exists_newObject_eq_ok_iff (h : Heap) :
    (∃ o h', h.newObject c = .ok (o, h') ∧ o.className.text = n) ↔
      String.ofList (Text.dropLeading Name.separator c.toList) = n ∧
        Name.isClassName n = true := by
  unfold newObject
  dsimp only
  constructor
  · rintro ⟨o, h', made, rfl⟩
    split at made
    · rename_i className found
      cases made
      exact ⟨(ClassName.ofText?_eq_some_iff.1 found).symm, className.valid⟩
    · cases made
  · rintro ⟨rfl, valid⟩
    have found := ClassName.ofText?_eq_some_iff (c := ⟨_, valid⟩).2 rfl
    rw [found]
    exact ⟨_, _, rfl, rfl⟩

theorem exists_newResource_eq_ok_iff (h : Heap) :
    (∃ r h', h.newResource k = .ok (r, h') ∧ r.kind.text = k) ↔ Name.isResourceKind k = true := by
  unfold newResource ResourceKind.ofText?
  constructor
  · rintro ⟨r, h', made, text⟩
    rw [← text]
    exact r.kind.valid
  · intro valid
    rw [dif_pos valid]
    exact ⟨_, _, rfl, rfl⟩

/-! ## Agreement -/

/-- Constructors, declarations and the grammar of tokens agree on names. An object can be made from
exactly the texts without white space at their ends that are read as a name, and that name is its
class. Where a text is read as a name, with or without white space, a declaration from the text has
that name, and objects of that name can be made. The resources that can be made are those whose kind,
put between the parentheses of a resource token, is read as that kind. -/
theorem constructors_agree_with_parse (h : Heap) :
    (∀ c n : String, (∃ o h', h.newObject c = .ok (o, h') ∧ o.className.text = n) ↔
      ((∀ d ∈ c.toList.head?, isWhiteSpace d = false) ∧
        ∀ d ∈ c.toList.getLast?, isWhiteSpace d = false) ∧ Token.parse c = .ok (.named n)) ∧
    (∀ c n : String, Token.parse c = .ok (.named n) → (Declaration.ofName c).name = n ∧
      ∃ o h', h.newObject n = .ok (o, h') ∧ o.className.text = n) ∧
    ∀ k : String, (∃ r h', h.newResource k = .ok (r, h') ∧ r.kind.text = k) ↔
      Token.parse ("resource (" ++ k ++ ")") = .ok (.resource k) := by
  refine ⟨fun c n => ?_, fun c n read => ?_, fun k => ?_⟩
  · rw [exists_newObject_eq_ok_iff, Token.parse_eq_named_iff]
    constructor
    · rintro ⟨text, valid⟩
      have chars : Text.dropLeading Name.separator c.toList = n.toList := by
        rw [← text, String.toList_ofList]
      have ends := (Token.spells_named_iff.2 ⟨chars, valid⟩).solid_ends
      refine ⟨ends, ?_, valid⟩
      rwa [Name.normalize, Text.trim_eq_self ends.1 ends.2]
    · rintro ⟨ends, text, valid⟩
      rw [Name.normalize, Text.trim_eq_self ends.1 ends.2] at text
      exact ⟨text, valid⟩
  · obtain ⟨text, valid⟩ := Token.parse_eq_named_iff.1 read
    have free := (Token.spells_named_iff.2 ⟨rfl, valid⟩).dropLeading_eq
    refine ⟨text, (exists_newObject_eq_ok_iff h).2 ⟨?_, valid⟩⟩
    rw [free, String.ofList_toList]
  · rw [exists_newResource_eq_ok_iff, Token.parse_resource_iff]

/-- A name with a separator in front and white space around it: no object is made from the text, and
one is made from the name. -/
theorem constructors_agree_with_parse_on_parcel :
    let text := " \\Depot\\Parcel "
    Token.parse text = .ok (.named "Depot\\Parcel") ∧
      (Declaration.ofName text).name = "Depot\\Parcel" ∧
      (¬ ∃ o h', empty.newObject text = .ok (o, h') ∧ o.className.text = "Depot\\Parcel") ∧
      (∃ o h', empty.newObject "Depot\\Parcel" = .ok (o, h') ∧
        o.className.text = "Depot\\Parcel") ∧
      ∃ r h', empty.newResource "packing slip" = .ok (r, h') ∧ r.kind.text = "packing slip" := by
  intro text
  have read : Token.parse text = .ok (.named "Depot\\Parcel") := by
    decide +kernel
  obtain ⟨objects, names, resources⟩ := constructors_agree_with_parse empty
  have refused : ¬ ∃ o h', empty.newObject text = .ok (o, h') ∧
      o.className.text = "Depot\\Parcel" := by
    rw [objects]
    rintro ⟨⟨solid, _⟩, _⟩
    exact absurd (solid ' ' (by decide)) (by decide)
  obtain ⟨declared, made⟩ := names _ _ read
  exact ⟨read, declared, refused, made, (resources "packing slip").2 (by decide +kernel)⟩

end Heap

end RuntimeTypes
