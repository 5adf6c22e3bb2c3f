import Highlighter.Document.Dump
import Highlighter.Proofs.Document.Descendants

/-!
# The fields of a dumped tree

A node is dumped as one object, with its attributes beside the fields that other nodes have too. Main statements: if the
attributes have names of their own, no object has two fields of one name; and if also the elements are of kinds of
their own, trees that are dumped alike are equal.

Each part of a node can be looked up among its fields, since no other part has fields of that name.
-/

namespace Highlighter

/-! ## Objects inside a value -/

namespace Json

mutual

/-- The fields of each object in a value. -/
def objects : Json → List (List (String × Json))
  | .array items => itemObjects items
  | .object fields => fields :: fieldObjects fields
  | _ => []

/-- The fields of each object in the items of an array. -/
def itemObjects : List Json → List (List (String × Json))
  | [] => []
  | item :: items => objects item ++ itemObjects items

/-- The fields of each object in the fields of an object. -/
def fieldObjects : List (String × Json) → List (List (String × Json))
  | [] => []
  | (_, value) :: fields => objects value ++ fieldObjects fields

end

/-- No object in the value has two fields of one name. -/
def KeysDistinct (value : Json) : Prop := ∀ fields ∈ value.objects, (fields.map Prod.fst).Nodup

theorem fieldObjects_append (xs ys : List (String × Json)) :
    fieldObjects (xs ++ ys) = fieldObjects xs ++ fieldObjects ys := by
  induction xs with
  | nil => simp [fieldObjects]
  | cons x xs ih => simp [fieldObjects, ih]

end Json

theorem Attribute.toJson_inj {a b : Attribute} (h : a.toJson = b.toJson) : a = b := by
  cases a <;> cases b <;> simp_all [toJson]

theorem Attribute.objects_toJson (value : Attribute) : value.toJson.objects = [] := by
  cases value <;> simp [toJson, Json.objects]

theorem Position.toJson_inj {p q : Position} (h : p.toJson = q.toJson) : p = q := by
  obtain ⟨⟨line, column, offset⟩, ⟨line', column', offset'⟩⟩ := p
  obtain ⟨⟨other, otherColumn, otherOffset⟩, ⟨other', otherColumn', otherOffset'⟩⟩ := q
  simpa [toJson, Point.toJson, and_assoc] using h

theorem Position.keysDistinct_toJson (position : Position) : position.toJson.KeysDistinct := by
  simp [Json.KeysDistinct, toJson, Point.toJson, Json.objects, Json.fieldObjects]

namespace Node

/-! ## Names -/

/-- The names of the fields that are no attributes. -/
def fieldNames : List String := ["type", "value", "children", "position"]

/-- No attribute has the name of another field. -/
def AttributesApart (attributes : Attributes) : Prop := ∀ entry ∈ attributes.entries, entry.1 ∉ fieldNames

/-- A node that is dumped under names of its own: an element is neither called a text nor a highlight, and its attributes
are apart from its other fields. -/
def NamedApart : Node → Prop
  | .element kind _ attributes _ _ => kind ∉ ["text", "highlight"] ∧ AttributesApart attributes
  | _ => True

/-- Each node of the tree is dumped under names of its own. -/
def AllNamedApart (tree : Node) : Prop := ∀ node ∈ tree :: tree.descendants, node.NamedApart

theorem allNamedApart_iff {tree : Node} : tree.AllNamedApart ↔ ∀ node ∈ forestNodes [tree], node.NamedApart := by
  simp [AllNamedApart]

/-! ## The fields of a node -/

/-- The children that a node shows in its dump. An element shows none if it has none, a highlight shows them anyhow. -/
def shownChildren : Node → Option (List Node)
  | .text .. => none
  | .highlight _ children _ => some children
  | .element _ _ _ children _ => if children.isEmpty then none else some children

/-- The field with the children, if they are shown. -/
def childrenField (children : Option (List Node)) : List (String × Json) :=
  (children.map fun children => ("children", Json.array (toJsons children))).toList

/-- The fields of a node: its kind, and those of its parts. -/
def fields (node : Node) : List (String × Json) :=
  ("type", .string node.kind) :: (valueField node.value? ++ (attributeFields node.attributes ++
    (childrenField node.shownChildren ++ positionField node.position?)))

theorem toJson_eq (node : Node) : node.toJson = .object node.fields := by
  have hempty : attributeFields .empty = [] := rfl
  cases node with
  | text value position => simp [toJson, fields, kind, value?, attributes, shownChildren, childrenField, position?,
      valueField, hempty]
  | highlight value children position => simp [toJson, fields, kind, value?, attributes, shownChildren, childrenField,
      position?, valueField, hempty]
  | element kind value attributes children position =>
    cases children <;>
      simp [toJson, fields, Node.kind, value?, Node.attributes, shownChildren, childrenField, position?]

theorem attributesApart_of_namedApart {node : Node} (h : node.NamedApart) : AttributesApart node.attributes := by
  cases node with
  | text value position => simp [AttributesApart, attributes, Attributes.empty]
  | highlight value children position => simp [AttributesApart, attributes, Attributes.empty]
  | element kind value attributes children position => exact h.2

/-! ## No field twice -/

/-- The names of the fields of a node, some of which may be missing. -/
theorem names_sublist (node : Node) :
    (node.fields.map Prod.fst).Sublist
      ("type" :: "value" :: (node.attributes.entries.map Prod.fst ++ ["children", "position"])) := by
  -- Each part of the node has its own name, or no field at all; attributes are never missing.
  have hvalue : ((valueField node.value?).map Prod.fst).Sublist ["value"] := by
    unfold valueField
    cases node.value? <;> simp
  have hattributes : (attributeFields node.attributes).map Prod.fst = node.attributes.entries.map Prod.fst := by
    simp [attributeFields, Function.comp_def]
  have hchildren : ((childrenField node.shownChildren).map Prod.fst).Sublist ["children"] := by
    unfold childrenField
    cases node.shownChildren <;> simp
  have hposition : ((positionField node.position?).map Prod.fst).Sublist ["position"] := by
    unfold positionField
    cases node.position? <;> simp
  simp only [fields, List.map_cons, List.map_append, hattributes]
  exact (hvalue.append ((List.Sublist.refl _).append (hchildren.append hposition))).cons_cons "type"

/-- The attributes of a node are ordered by name, so none of their names occurs twice. -/
theorem nodup_names {node : Node} (h : AttributesApart node.attributes) : (node.fields.map Prod.fst).Nodup := by
  -- Among themselves the attributes have different names since they are sorted.
  have hattributes : (node.attributes.entries.map Prod.fst).Nodup := by
    rw [List.nodup_iff_pairwise_ne, List.pairwise_map]
    exact node.attributes.sorted.imp String.ne_of_lt
  -- And none of them has the name of another field, as the hypothesis says.
  have hother : ∀ name ∈ fieldNames, name ∉ node.attributes.entries.map Prod.fst := by
    intro name hname hmem
    obtain ⟨entry, hentry, rfl⟩ := List.mem_map.mp hmem
    exact h entry hentry hname
  refine List.Nodup.sublist node.names_sublist ?_
  have htype := hother "type" (by decide)
  have hvalue := hother "value" (by decide)
  have hchildren := hother "children" (by decide)
  have hposition := hother "position" (by decide)
  rw [List.nodup_cons, List.nodup_cons, List.nodup_append]
  refine ⟨by simpa using htype, by simpa using hvalue, hattributes, by decide, ?_⟩
  -- What is left is that an attribute has neither of the two names behind the attributes.
  intro name hname other hlast heq
  have hcases : other = "children" ∨ other = "position" := by simpa using hlast
  rcases hcases with rfl | rfl
  · exact hchildren (heq ▸ hname)
  · exact hposition (heq ▸ hname)

/-- The objects inside the fields of a node are those of its children, and of its position. -/
theorem fieldObjects_fields (node : Node) :
    Json.fieldObjects node.fields =
      Json.itemObjects (toJsons (node.children?.getD [])) ++ Json.fieldObjects (positionField node.position?) := by
  -- Values and attributes are no objects and hold none.
  have hvalue : Json.fieldObjects (valueField node.value?) = [] := by
    unfold valueField
    cases node.value? <;> simp [Json.fieldObjects, Json.objects]
  have hattributes : ∀ entries : List (String × Attribute),
      Json.fieldObjects (entries.map fun entry => (entry.1, entry.2.toJson)) = [] := by
    intro entries
    induction entries with
    | nil => simp [Json.fieldObjects]
    | cons entry entries ih =>
      rw [List.map_cons, Json.fieldObjects, Attribute.objects_toJson, ih, List.append_nil]
  have hchildren : Json.fieldObjects (childrenField node.shownChildren) =
      Json.itemObjects (toJsons (node.children?.getD [])) := by
    -- A text has no children, a highlight shows none, and an element shows them unless there are none.
    cases node with
    | text value position => simp [childrenField, shownChildren, children?, toJsons, Json.fieldObjects, Json.itemObjects]
    | highlight value children position =>
      simp [childrenField, shownChildren, children?, Json.fieldObjects, Json.objects]
    | element kind value attributes children position =>
      cases children <;>
        simp [childrenField, shownChildren, children?, toJsons, Json.fieldObjects, Json.objects, Json.itemObjects]
  simp only [fields, Json.fieldObjects, Json.objects, Json.fieldObjects_append, hvalue, hchildren, attributeFields,
    hattributes, List.nil_append]

/-- If attributes have names of their own, no object of the dump has two fields of one name. -/
theorem nodup_of_mem_itemObjects {nodes : List Node} (h : ∀ node ∈ forestNodes nodes, AttributesApart node.attributes) :
    ∀ fields ∈ Json.itemObjects (toJsons nodes), (fields.map Prod.fst).Nodup := by
  -- What a node adds to the objects of its children is its own fields, and the places of its position.
  have hnode : ∀ (node : Node) (children : List Node), node.children?.getD [] = children →
      AttributesApart node.attributes →
      (∀ fields ∈ Json.itemObjects (toJsons children), (fields.map Prod.fst).Nodup) →
      ∀ fields ∈ Json.objects node.toJson, (fields.map Prod.fst).Nodup := by
    rintro node _ rfl hapart hchildren
    rw [toJson_eq, Json.objects, fieldObjects_fields, List.forall_mem_cons, List.forall_mem_append]
    refine ⟨nodup_names hapart, hchildren, ?_⟩
    cases node.position? with
    | none => simp [positionField, Json.fieldObjects]
    | some position =>
      have hposition := position.keysDistinct_toJson
      simpa [positionField, Json.fieldObjects, Json.KeysDistinct] using hposition
  -- The objects of siblings are those of the first node and those of the others.
  induction nodes using forestInduction with
  | nil => simp [toJsons, Json.itemObjects]
  | text value position nodes ih =>
    obtain ⟨htext, hothers⟩ := List.forall_mem_cons.mp h
    rw [toJsons, Json.itemObjects, List.forall_mem_append]
    exact ⟨hnode _ [] rfl htext (by simp [toJsons, Json.itemObjects]), ih hothers⟩
  | parent node children nodes hchildren ihchildren ihnodes =>
    obtain ⟨hapart, hbelow, hothers⟩ := (forall_mem_forestNodes_of_children? hchildren).mp h
    rw [toJsons, Json.itemObjects, List.forall_mem_append]
    exact ⟨hnode node children (by rw [hchildren, Option.getD_some]) hapart (ihchildren hbelow), ihnodes hothers⟩

theorem AllNamedApart.keysDistinct {tree : Node} (h : tree.AllNamedApart) : tree.toJson.KeysDistinct := by
  have hapart : ∀ node ∈ forestNodes [tree], AttributesApart node.attributes := by
    intro node hnode
    exact attributesApart_of_namedApart (allNamedApart_iff.mp h node hnode)
  have hall := nodup_of_mem_itemObjects hapart
  simpa [Json.KeysDistinct, toJsons, Json.itemObjects] using hall

/-! ## Looking parts up -/

/-- A field that may be missing is found under its own name only. -/
theorem lookup_toList_map {α : Type} (name key : String) (form : α → Json) (part : Option α) :
    ((part.map fun value => (name, form value)).toList).lookup key = if key = name then part.map form else none := by
  cases part with
  | none => simp
  | some value =>
    by_cases h : key = name
    · simp [h]
    · have hne : (key == name) = false := beq_eq_false_iff_ne.mpr h
      simp [List.lookup_cons, h, hne]

/-- The field of an attribute is no other one. -/
theorem lookup_attributeFields {attributes : Attributes} (h : AttributesApart attributes) (name : String)
    (hname : name ∈ fieldNames) : (attributeFields attributes).lookup name = none := by
  rw [List.lookup_eq_none_iff]
  intro field hfield
  obtain ⟨entry, hentry, rfl⟩ := List.mem_map.mp hfield
  have hne : name ≠ entry.1 := fun heq => h entry hentry (heq ▸ hname)
  simpa using hne

variable {node : Node} (h : AttributesApart node.attributes)
include h

theorem lookup_value : node.fields.lookup "value" = node.value?.map Json.string := by
  have hattributes := lookup_attributeFields h "value" (by decide)
  simp [fields, List.lookup_cons, List.lookup_append, hattributes, valueField, childrenField, positionField,
    lookup_toList_map]

theorem lookup_children :
    node.fields.lookup "children" = node.shownChildren.map fun children => .array (toJsons children) := by
  have hattributes := lookup_attributeFields h "children" (by decide)
  simp [fields, List.lookup_cons, List.lookup_append, hattributes, valueField, childrenField, positionField,
    lookup_toList_map]

theorem lookup_position : node.fields.lookup "position" = node.position?.map Position.toJson := by
  have hattributes := lookup_attributeFields h "position" (by decide)
  simp [fields, List.lookup_cons, List.lookup_append, hattributes, valueField, childrenField, positionField,
    lookup_toList_map]

/-- The fields that have none of the names of other fields are the attributes. -/
theorem filter_fields : node.fields.filter (·.1 ∉ fieldNames) = attributeFields node.attributes := by
  -- A field that is missing leaves nothing, and one that is there is one of the other names.
  have hother : ∀ {α : Type} {name : String} (form : α → Json) (part : Option α), name ∈ fieldNames →
      (part.map fun value => (name, form value)).toList.filter (·.1 ∉ fieldNames) = [] := by
    intro α name form part hname
    cases part <;> simp [hname]
  have hattributes : (attributeFields node.attributes).filter (·.1 ∉ fieldNames) = attributeFields node.attributes := by
    rw [List.filter_eq_self]
    intro field hfield
    obtain ⟨entry, hentry, rfl⟩ := List.mem_map.mp hfield
    exact decide_eq_true (h entry hentry)
  rw [fields, List.filter_cons_of_neg (by simp [fieldNames]), List.filter_append, List.filter_append, List.filter_append,
    valueField, hother _ _ (by decide), childrenField, hother _ _ (by decide), positionField, hother _ _ (by decide),
    hattributes]
  simp

omit h

/-! ## Trees from their dumps -/

/-- Nodes with the same fields have the same parts, and children that are dumped alike. -/
theorem parts_eq_of_fields_eq {a b : Node} (ha : AttributesApart a.attributes) (hb : AttributesApart b.attributes)
    (h : a.fields = b.fields) :
    a.kind = b.kind ∧ a.value? = b.value? ∧ a.attributes = b.attributes ∧
      a.shownChildren.map toJsons = b.shownChildren.map toJsons ∧ a.position? = b.position? := by
  -- The kind comes first; each other part is looked up under its name, or left when all names are taken out.
  have hkind : a.kind = b.kind := by
    have hhead := congrArg List.head? h
    simpa [fields] using hhead
  have hvalue : a.value? = b.value? := by
    have hlookup := lookup_value ha
    rw [h, lookup_value hb] at hlookup
    exact (Option.map_injective (fun _ _ => Json.string.inj) hlookup).symm
  have hattributes : a.attributes = b.attributes := by
    have hfilter := filter_fields ha
    rw [h, filter_fields hb] at hfilter
    apply Attributes.ext
    refine ((List.map_inj_right ?_).mp hfilter).symm
    -- Attributes with one name and one form are one attribute.
    intro x y hxy
    obtain ⟨hname, hform⟩ := Prod.mk.inj hxy
    exact Prod.ext hname (Attribute.toJson_inj hform)
  have hchildren : a.shownChildren.map toJsons = b.shownChildren.map toJsons := by
    have hlookup := lookup_children ha
    rw [h, lookup_children hb] at hlookup
    refine Option.map_injective (fun _ _ => Json.array.inj) ?_
    simpa [Function.comp_def] using hlookup.symm
  have hposition : a.position? = b.position? := by
    have hlookup := lookup_position ha
    rw [h, lookup_position hb] at hlookup
    exact (Option.map_injective (fun _ _ => Position.toJson_inj) hlookup).symm
  exact ⟨hkind, hvalue, hattributes, hchildren, hposition⟩

theorem children?_of_shownChildren {node : Node} {children : List Node} (h : node.shownChildren = some children) :
    node.children? = some children := by
  cases node <;> simp_all [shownChildren, children?]

/-- Nodes of the same parts are one, if the kind of an element is none of those of texts and highlights. -/
theorem eq_of_parts {a b : Node} (ha : a.NamedApart) (hb : b.NamedApart) (hkind : a.kind = b.kind)
    (hvalue : a.value? = b.value?) (hattributes : a.attributes = b.attributes)
    (hchildren : a.shownChildren = b.shownChildren) (hposition : a.position? = b.position?) : a = b := by
  cases a <;> cases b <;>
    simp_all [NamedApart, kind, value?, attributes, shownChildren, position?]
  case element.element =>
    -- Children that are not shown are none.
    split at hchildren <;> split at hchildren <;> simp_all

/-- Siblings that are dumped alike are equal. -/
theorem toJsons_inj {nodes others : List Node} (h : toJsons nodes = toJsons others)
    (hnodes : ∀ node ∈ forestNodes nodes, node.NamedApart) (hothers : ∀ node ∈ forestNodes others, node.NamedApart) :
    nodes = others := by
  -- Two nodes are one if their children, which are dumped alike, are the same.
  have hnode : ∀ a b : Node, a.NamedApart → b.NamedApart → a.toJson = b.toJson →
      (∀ children others, a.shownChildren = some children → b.shownChildren = some others →
        toJsons children = toJsons others → children = others) → a = b := by
    intro a b ha hb hform hbelow
    rw [toJson_eq, toJson_eq, Json.object.injEq] at hform
    obtain ⟨hkind, hvalue, hattributes, hforms, hposition⟩ :=
      parts_eq_of_fields_eq (attributesApart_of_namedApart ha) (attributesApart_of_namedApart hb) hform
    refine eq_of_parts ha hb hkind hvalue hattributes ?_ hposition
    cases hown : a.shownChildren with
    | none =>
      rw [hown, Option.map_none] at hforms
      exact (Option.map_eq_none_iff.mp hforms.symm).symm
    | some children =>
      rw [hown, Option.map_some] at hforms
      obtain ⟨others, hother, hsame⟩ := Option.map_eq_some_iff.mp hforms.symm
      rw [hother, hbelow children others hown hother hsame.symm]
  -- The children of a text are none, and those of any other node are siblings of their own.
  induction nodes using forestInduction generalizing others with
  | nil => cases others <;> simp_all [toJsons]
  | text value position nodes ih =>
    cases others with
    | nil => simp [toJsons] at h
    | cons other others =>
      obtain ⟨hform, hforms⟩ := List.cons.inj h
      obtain ⟨hfirst, hrest⟩ := List.forall_mem_cons.mp hnodes
      rw [forestNodes_cons, List.forall_mem_append] at hothers
      obtain ⟨hother, hmore⟩ := hothers
      rw [hnode _ other hfirst (hother other (List.mem_cons_self ..)) hform (by simp [shownChildren]),
        ih hforms hrest hmore]
  | parent node children nodes hchildren ihchildren ihnodes =>
    cases others with
    | nil => simp [toJsons] at h
    | cons other others =>
      obtain ⟨hform, hforms⟩ := List.cons.inj h
      obtain ⟨hfirst, hbelow, hrest⟩ := (forall_mem_forestNodes_of_children? hchildren).mp hnodes
      rw [forestNodes_cons, List.forall_mem_append] at hothers
      obtain ⟨hother, hmore⟩ := hothers
      obtain ⟨hotherFirst, hotherBelow⟩ := List.forall_mem_cons.mp hother
      rw [hnode node other hfirst hotherFirst hform ?_, ihnodes hforms hrest hmore]
      intro own others hown hothers hsame
      obtain rfl : children = own := by
        simpa [hchildren] using children?_of_shownChildren hown
      rw [descendants_of_children? (children?_of_shownChildren hothers)] at hotherBelow
      exact ihchildren hsame hbelow hotherBelow

theorem toJson_inj {a b : Node} (h : a.toJson = b.toJson) (ha : a.AllNamedApart) (hb : b.AllNamedApart) : a = b := by
  have hforms : toJsons [a] = toJsons [b] := by simp only [toJsons, h]
  obtain ⟨heq, -⟩ := List.cons.inj (toJsons_inj hforms (allNamedApart_iff.mp ha) (allNamedApart_iff.mp hb))
  exact heq

end Node

end Highlighter
