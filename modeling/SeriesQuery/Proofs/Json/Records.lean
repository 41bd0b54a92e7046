import SeriesQuery.Json.Decode
import SeriesQuery.Proofs.Outcome

/-!
# Records from their fields

An object that names the fields of a record in the declared order sets each field from its own document
(`read_ofMembers`).
-/

namespace SeriesQuery

namespace Json

variable {α β : Type}

/-! ## Parts -/

/-- A text is read from the tree written for it. -/
theorem readString_ofText (text : String) : readString (ofText text) = .ok text := rfl

/-- A text that may be missing is read from the tree written for it. -/
theorem readOptional_ofText? (text : Option String) :
    readOptional readString (ofText? text) = .ok text := by
  cases text <;> rfl

/-- A list is read back if each of its values is. -/
theorem readList_ofItems {read : Json → Except JsonFault α} {toJson : α → Json}
    (h : ∀ a, read (toJson a) = .ok a) (as : List α) :
    readList read (ofItems (as.map toJson)) = .ok as := by
  have heach : readEach read (JsonItems.ofList (as.map toJson)) = .ok as := by
    induction as with
    | nil => rfl
    | cons a as ih =>
        rw [List.map_cons, JsonItems.ofList, readEach, h, ih]
        rfl
  exact heach

namespace Shape

/-! ## Fields -/

/-- The record with its fields set from documents, one after the other. -/
def fill (value : α) : List (Field α) → List Json → Except JsonFault α
  | f :: fields, tree :: trees => do
    let set ← f.read tree
    fill (set value) fields trees
  | _, _ => .ok value

/-- The name of a field means none of the fields before it. -/
def Unambiguous (shape : Shape α) : Prop :=
  shape.fields.Pairwise fun f g => g.name ≠ f.name ∧ g.name ∉ f.aliases

instance (shape : Shape α) : Decidable shape.Unambiguous :=
  inferInstanceAs (Decidable (shape.fields.Pairwise _))

/-- A field that a setter fills is set to what its document holds. -/
theorem fill_of {read : Json → Except JsonFault β} {tree : Json} {b : β} (h : read tree = .ok b)
    (name : String) (presence : Presence) (set : β → α → α) (value : α) (fields : List (Field α))
    (trees : List Json) :
    fill value (.of name presence read set :: fields) (tree :: trees) =
      fill (set b value) fields trees := by
  simp only [fill, Field.of, h]
  rfl

/-- A field is found under its name. -/
theorem field?_name {shape : Shape α} (h : shape.Unambiguous) {f : Field α} (hf : f ∈ shape.fields) :
    shape.field? f.name = some f := by
  obtain ⟨_, _, fields⟩ := shape
  unfold Unambiguous at h
  unfold field?
  induction fields with
  | nil => exact absurd hf List.not_mem_nil
  | cons g fields ih =>
      obtain ⟨hg, hfields⟩ := List.pairwise_cons.1 h
      rcases List.mem_cons.1 hf with rfl | hf
      · exact List.find?_cons_of_pos (by simp)
      · obtain ⟨hname, haliases⟩ := hg f hf
        rw [List.find?_cons_of_neg, ih hfields hf]
        simp [hname.symm, haliases]

/-- No name stands twice in an unambiguous shape. -/
theorem nodup_names {shape : Shape α} (h : shape.Unambiguous) :
    (shape.fields.map Field.name).Nodup := by
  rw [List.Nodup, List.pairwise_map]
  exact h.imp fun hfg => hfg.1.symm

/-- Members named in the declared order, from some field on. -/
theorem readMembers_ofList {shape : Shape α} {fields : List (Field α)} {trees : List Json}
    {seen : List String} (value : α) (hnodup : (fields.map Field.name).Nodup)
    (hfields : ∀ f ∈ fields, shape.field? f.name = some f ∧ f.name ∉ seen)
    (hall : ∀ f ∈ shape.fields, f.name ∈ seen ∨ f.name ∈ fields.map Field.name)
    (hlength : trees.length = fields.length) :
    shape.readMembers seen value (JsonMembers.ofList ((fields.map Field.name).zip trees)) =
      fill value fields trees := by
  induction fields generalizing trees seen value with
  | nil =>
      have hnone : shape.fields.find? (fun f => f.presence = .required ∧ f.name ∉ seen) = none := by
        rw [List.find?_eq_none]
        intro f hf
        have hseen : f.name ∈ seen := (hall f hf).resolve_right List.not_mem_nil
        simp [hseen]
      rw [List.map_nil, List.zip_nil_left, JsonMembers.ofList, readMembers, hnone, fill]
      nofun
  | cons f fields ih =>
      obtain ⟨tree, trees, rfl⟩ := List.exists_cons_of_length_eq_add_one hlength
      obtain ⟨⟨hfield, hseen⟩, hfields⟩ := List.forall_mem_cons.1 hfields
      obtain ⟨hname, hnodup⟩ := List.nodup_cons.1 hnodup
      rw [List.map_cons, List.zip_cons_cons, JsonMembers.ofList, readMembers, hfield]
      simp only [hseen, if_false, fill]
      -- the field is seen now, and it is none of those to come
      congr 1
      funext set
      refine ih (set value) hnodup (fun g hg => ⟨(hfields g hg).1, ?_⟩) (fun g hg => ?_)
        (Nat.succ.inj hlength)
      · have hne : g.name ≠ f.name := fun heq => hname (heq ▸ List.mem_map_of_mem hg)
        simp [hne, (hfields g hg).2]
      · have hall := hall g hg
        rw [List.map_cons, List.mem_cons, ← or_assoc] at hall
        rw [List.mem_cons]
        exact hall.imp_left Or.symm

/-- The object of all fields, in the declared order. -/
theorem read_ofMembers (shape : Shape α) (h : shape.Unambiguous) (trees : List Json)
    (hlength : trees.length = shape.fields.length) :
    shape.read (ofMembers ((shape.fields.map Field.name).zip trees)) =
      fill shape.blank shape.fields trees := by
  refine readMembers_ofList shape.blank (nodup_names h) (fun f hf => ⟨field?_name h hf, ?_⟩)
    (fun f hf => .inr (List.mem_map_of_mem hf)) hlength
  exact List.not_mem_nil

end Shape

end Json

end SeriesQuery
