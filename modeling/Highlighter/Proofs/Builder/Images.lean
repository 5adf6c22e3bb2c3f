import Highlighter.Proofs.Builder.Forest
import Highlighter.Proofs.Builder.Texts

/-!
# Alternative texts of images

An image has no children. The texts inside it are joined into its attribute `alt`, those of the containers in it as well as
its own: what a container becomes is flattened when it is closed, to the text that it stands for. An image stands for no
text, since its own is in the attribute. Main statement: the alternative text of an image is made of all texts in it in
order, apart from those inside the images that it encloses, so it is all of them exactly if these images have none.
-/

namespace Highlighter

/-! ## Inline content -/

/-- Whether a container may stand inside an image. -/
def Tag.isInline : Tag → Bool
  | .emphasis => true
  | .strong => true
  | .strikethrough => true
  | .link .. => true
  | .image .. => true
  | _ => false

/-- Whether an event may stand inside an image. -/
def Event.isInline : Event → Bool
  | .openTag tag => tag.isInline
  | .rule => false
  | .taskMarker _ => false
  | _ => true

/-- Whether a container is an image. -/
def Tag.isImage : Tag → Bool
  | .image .. => true
  | _ => false

namespace Item

mutual

/-- The text that an item gives to an image around it. An image in it gives none. -/
def altText : Item → String
  | .single event _ _ => event.payload
  | .container tag items _ => if tag.isImage then "" else altTexts items

/-- The text that a forest gives to an image around it. -/
def altTexts : List Item → String
  | [] => ""
  | item :: items => item.altText ++ altTexts items

end

/-- The texts of all events of a forest. -/
def payloads (items : List Item) : String := String.join ((forestEvents items).map (·.1.payload))

mutual

/-- The text inside the images of an item. -/
def hiddenText : Item → String
  | .single .. => ""
  | .container tag items _ => if tag.isImage then payloads items else hiddenTexts items

/-- The text inside the images of a forest. -/
def hiddenTexts : List Item → String
  | [] => ""
  | item :: items => item.hiddenText ++ hiddenTexts items

end

theorem payloads_container (tag : Tag) (inner : List Item) (range : ByteRange) (items : List Item) :
    payloads (.container tag inner range :: items) = payloads inner ++ payloads items := by
  simp [payloads, forestEvents, events, Event.payload, String.join_append]

theorem payloads_single (event : Event) (alone : event.standsAlone = true) (range : ByteRange) (items : List Item) :
    payloads (.single event alone range :: items) = event.payload ++ payloads items := by
  simp [payloads, forestEvents, events]

/-- Each character of the texts is in what is given or in what is hidden. -/
theorem length_payloads (items : List Item) :
    (payloads items).length = (altTexts items).length + (hiddenTexts items).length := by
  induction items using forestInduction with
  | nil => rfl
  | single event alone range items ih =>
    simp only [payloads_single, altTexts, altText, hiddenTexts, hiddenText, String.length_append, ih,
      String.length_empty]
    omega
  | container tag inner range items ihinner ihitems =>
    -- An image hides its inner texts, and any other container gives them.
    simp only [payloads_container, altTexts, altText, hiddenTexts, hiddenText, String.length_append, ihitems]
    split
    · simp only [String.length_empty]
      omega
    · rw [ihinner]
      omega

theorem altTexts_of_hiddenTexts {items : List Item} (h : hiddenTexts items = "") :
    altTexts items = payloads items := by
  induction items using forestInduction with
  | nil => rfl
  | single event alone range items ih =>
    simp only [hiddenTexts, hiddenText, String.empty_append] at h
    rw [payloads_single, altTexts, altText, ih h]
  | container tag inner range items ihinner ihitems =>
    rw [hiddenTexts, String.append_eq_empty_iff, hiddenText] at h
    obtain ⟨hinner, hitems⟩ := h
    rw [payloads_container, altTexts, altText, ihitems hitems]
    -- An image that hides nothing holds no text at all; in any other container nothing is hidden inside.
    split
    case isTrue himage => rw [← hinner, if_pos himage]
    case isFalse himage =>
      rw [if_neg himage] at hinner
      rw [ihinner hinner]

/-- What is given is all of the text exactly if nothing is hidden. -/
theorem altTexts_eq_payloads_iff (items : List Item) :
    altTexts items = payloads items ↔ hiddenTexts items = "" := by
  refine ⟨fun h => ?_, altTexts_of_hiddenTexts⟩
  have hlength := length_payloads items
  rw [← h] at hlength
  exact String.length_eq_zero_iff.mp (by omega)

end Item

/-! ## Texts of parts -/

/-- The children that parts become stand for the texts of the parts. -/
theorem Part.textContents_nodes (parts : List Part) :
    Node.textContents (nodes parts) = String.join (parts.map text) := by
  have hfold : ∀ children : List Node,
      Node.textContents (parts.foldl (fun children part => part.onto children) children).reverse =
        Node.textContents children.reverse ++ String.join (parts.map text) := by
    induction parts with
    | nil => simp
    | cons part parts ih =>
      intro children
      rw [List.foldl_cons, ih, textContents_onto, List.map_cons, String.join_cons, String.append_assoc]
  have hnodes := hfold []
  rw [foldl_onto parts (.inr (by simp))] at hnodes
  simpa [Node.textContents] using hnodes

theorem Event.exists_part? {event : Event} (alone : event.standsAlone = true) (h : event.isInline = true)
    (position : Position) : ∃ part, event.part? position = some part := by
  cases event <;> simp_all [part?, isInline, standsAlone]

theorem Tag.textContent_read {tag : Tag} (h : tag.isInline = true) (position : Position) (marks : List Bool)
    (parts : List Part) :
    (tag.read position marks parts).textContent =
      if tag.isImage then "" else String.join (parts.map Part.text) := by
  cases tag <;> simp only [isInline, Bool.false_eq_true] at h
  case image url title => simp [read, isImage, Node.textContent]
  all_goals simp [read, isImage, Node.textContent_element_none, Part.textContents_nodes]

namespace Item

/-- The parts of inline items have the text that the items give. -/
theorem text_parts (index : LineIndex) {items : List Item}
    (h : ∀ event ∈ forestEvents items, event.1.isInline = true) :
    String.join ((parts index items).map Part.text) = altTexts items := by
  induction items using forestInduction with
  | nil => rfl
  | single event alone range items ih =>
    -- A single event is a part, and its text is that of its part.
    obtain ⟨hevent, hitems⟩ := forall_mem_forestEvents_single.mp h
    obtain ⟨part, hpart⟩ := Event.exists_part? alone hevent (index.position range.start range.stop)
    rw [parts, List.map_append, String.join_append, ih hitems, altTexts, altText, part?, hpart]
    simp [Event.text_of_part? hpart]
  | container tag inner range items ihinner ihitems =>
    -- A container is one part, whose text is what is read of the container as a whole.
    obtain ⟨htag, hinner, -, hitems⟩ := forall_mem_forestEvents_container.mp h
    rw [parts, List.map_append, String.join_append, ihitems hitems, altTexts, altText, part?]
    simp [Tag.textContent_read htag, ihinner hinner]

theorem forestMarks_of_isInline {items : List Item}
    (h : ∀ event ∈ forestEvents items, event.1.isInline = true) : forestMarks items = [] := by
  induction items using forestInduction with
  | nil => rfl
  | single event alone range items ih =>
    obtain ⟨hevent, hitems⟩ := forall_mem_forestEvents_single.mp h
    have hmark : event.mark? = none := by
      cases event <;> simp_all [Event.mark?, Event.isInline]
    simp [forestMarks, marks, hmark, ih hitems]
  | container tag inner range items ihinner ihitems =>
    obtain ⟨-, hinner, -, hitems⟩ := forall_mem_forestEvents_container.mp h
    simp [forestMarks, marks, ihinner hinner, ihitems hitems]

end Item

/-! ## Images -/

/-- The element of an image with an alternative text. -/
def imageElement (url title alt : String) (position : Position) : Node :=
  .element "image" none ((Tag.linkAttributes url title).insert "alt" (.text alt)) [] (some position)

/-- **What becomes of an image.** Whatever is open, a balanced sequence of inline events between the start and the end of an
image adds one element without children. Its alternative text are the texts of the events in order, apart from those inside
the images among them; it is all of their texts exactly if these images have no text. -/
theorem Builder.feedAll_image (builder : Builder) (url title : String) (opening closing : ByteRange)
    {items : List Item} {events : List (Event × ByteRange)} (hevents : Item.Spelling items events)
    (hinline : ∀ event ∈ events, event.1.isInline = true) :
    let position := builder.index.position opening.start opening.stop
    let image := imageElement url title (Item.altTexts items) position
    builder.feedAll ((.openTag (.image url title), opening) :: (events ++ [(.closeTag, closing)])) =
        { builder with top := builder.top.addNode image "" } ∧
      (Item.altTexts items = String.join (events.map (·.1.payload)) ↔ Item.hiddenTexts items = "") := by
  intro position image
  have hnames : ∀ event ∈ Item.forestEvents items, event.1.isInline = true := by
    have hall : ∀ event ∈ events.map (·.1), event.isInline = true := by simpa using hinline
    rw [hevents.map_fst] at hall
    simpa using hall
  have hpayloads : String.join (events.map (·.1.payload)) = Item.payloads items := by
    have hmap := congrArg (fun names => String.join (names.map Event.payload)) hevents.map_fst
    simpa [Item.payloads, Function.comp_def] using hmap
  -- With its tags around it the sequence spells a single container.
  have hspelling : Item.Spelling [.container (.image url title) items opening]
      ((.openTag (.image url title), opening) :: (events ++ [(.closeTag, closing)])) :=
    .container _ opening closing hevents .nil
  -- The image is read as one part, which marks nothing and stands for no text.
  have hread : (Tag.image url title).read position (Item.forestMarks items)
      (Item.parts builder.index items) = image := by
    rw [Tag.read, Item.text_parts builder.index hnames]
    rfl
  have hparts : Item.parts builder.index [.container (.image url title) items opening] =
      [.node image (Node.isText_element ..)] := by
    simp only [Item.parts, Item.part?, ← hread, position]
    rfl
  have hmarks : Item.forestMarks [.container (.image url title) items opening] = [] := by
    simp [Item.forestMarks, Item.marks, Item.forestMarks_of_isInline hnames]
  refine ⟨?_, by rw [hpayloads, Item.altTexts_eq_payloads_iff]⟩
  rw [builder.feedAll_spelling hspelling, builder.feedAll_forestEvents, hmarks, hparts]
  rfl

/-- The content of the image of a source, with an image in it. -/
def enclosedImage : List Item :=
  [.single (.text "a ") rfl ⟨2, 4⟩, .container .emphasis [.single (.text "b") rfl ⟨5, 6⟩] ⟨4, 7⟩,
    .single (.text " ") rfl ⟨7, 8⟩, .container (.image "u" "") [.single (.text "c") rfl ⟨10, 11⟩] ⟨8, 15⟩]

/-- The events of this content. -/
def enclosedImageEvents : List (Event × ByteRange) :=
  [(.text "a ", ⟨2, 4⟩), (.openTag .emphasis, ⟨4, 7⟩), (.text "b", ⟨5, 6⟩), (.closeTag, ⟨4, 7⟩),
    (.text " ", ⟨7, 8⟩), (.openTag (.image "u" ""), ⟨8, 15⟩), (.text "c", ⟨10, 11⟩), (.closeTag, ⟨8, 15⟩)]

theorem spelling_enclosedImage : Item.Spelling enclosedImage enclosedImageEvents :=
  .single _ rfl _ (.container _ _ _ (.single _ rfl _ .nil)
    (.single _ rfl _ (.container _ _ _ (.single _ rfl _ .nil) .nil)))

theorem feedAll_image_enclosedImage :
    let builder := Builder.start (LineIndex.ofSource "![a *b* ![c](u)](v)")
    let image := imageElement "v" "" (Item.altTexts enclosedImage) (builder.index.position 0 19)
    Item.Spelling enclosedImage enclosedImageEvents ∧
      (∀ event ∈ enclosedImageEvents, event.1.isInline = true) ∧
      builder.feedAll ((.openTag (.image "v" ""), ⟨0, 19⟩) :: (enclosedImageEvents ++ [(.closeTag, ⟨0, 19⟩)])) =
        { builder with top := builder.top.addNode image "" } ∧
      (Item.altTexts enclosedImage = String.join (enclosedImageEvents.map (·.1.payload)) ↔
        Item.hiddenTexts enclosedImage = "") := by
  intro builder image
  have hinline : ∀ event ∈ enclosedImageEvents, event.1.isInline = true := by decide
  exact ⟨spelling_enclosedImage, hinline,
    builder.feedAll_image "v" "" ⟨0, 19⟩ ⟨0, 19⟩ spelling_enclosedImage hinline⟩

/-- The text of an image in an image is lost to the alternative text around it, and so to the tree. -/
theorem not_altTexts_enclosedImage :
    let index := LineIndex.ofSource "![a *b* ![c](u)](v)"
    let whole := index.position 0 19
    Item.Spelling enclosedImage enclosedImageEvents ∧
      (∀ event ∈ enclosedImageEvents, event.1.isInline = true) ∧
      (treeOfEvents "![a *b* ![c](u)](v)"
          ((.openTag (.image "v" ""), ⟨0, 19⟩) :: (enclosedImageEvents ++ [(.closeTag, ⟨0, 19⟩)]))).value =
        .element "root" none .empty [imageElement "v" "" "a b " whole] (some whole) ∧
      "a b " ≠ String.join (enclosedImageEvents.map (·.1.payload)) := by
  exact ⟨spelling_enclosedImage, by decide, by decide +kernel, by decide +kernel⟩

end Highlighter
