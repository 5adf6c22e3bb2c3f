import Highlighter.Proofs.Pass.Repetition
import Highlighter.Proofs.Stripping

/-!
# Text content behind a pass

A pass takes off marker pairs and loses nothing else of what a tree stands for. Main statement: a highlighted tree stands
for what the tree as it was would stand for, had each of its texts been stripped.

An element stands for its value only if it has no children, so it counts that a pass empties no list of children and fills
none.
-/

namespace Highlighter

namespace Node

/-! ## Texts replaced -/

mutual

/-- The tree with another value in each of its texts. -/
def mapTexts (f : String → String) : Node → Node
  | .text value position => .text (f value) position
  | .highlight value children position => .highlight value (mapEach f children) position
  | .element kind value attributes children position =>
    .element kind value attributes (mapEach f children) position

/-- The siblings with another value in each text among and below them. -/
def mapEach (f : String → String) : List Node → List Node
  | [] => []
  | node :: nodes => mapTexts f node :: mapEach f nodes

end

section

variable {f : String → String}

theorem mapTexts_of_children? {node : Node} {children : List Node} (h : node.children? = some children) :
    node.mapTexts f = node.withChildren (mapEach f children) := by
  cases node with
  | text value position => simp [children?] at h
  | highlight value own position =>
    obtain rfl : own = children := by simpa [children?] using h
    simp only [mapTexts, withChildren]
  | element kind value attributes own position =>
    obtain rfl : own = children := by simpa [children?] using h
    simp only [mapTexts, withChildren]

theorem mapEach_eq_nil_iff {nodes : List Node} : mapEach f nodes = [] ↔ nodes = [] := by
  cases nodes <;> simp [mapEach]

/-- Siblings that stand for their values stand for these one after the other. -/
theorem textContents_eq_join {nodes : List Node} (h : ∀ node ∈ nodes, node.value? = some node.textContent) :
    textContents nodes = String.join (nodes.filterMap value?) := by
  induction nodes with
  | nil => rfl
  | cons node nodes ih =>
    obtain ⟨hnode, hnodes⟩ := List.forall_mem_cons.mp h
    rw [textContents, ih hnodes, List.filterMap_cons_some hnode, String.join_cons]

/-- A node stands for the same with other children that stand for the same, unless it gets or loses all. -/
theorem textContent_withChildren {node : Node} {xs ys : List Node} (h : node.isText = false)
    (hnil : xs = [] ↔ ys = []) (hcontents : textContents xs = textContents ys) :
    (node.withChildren xs).textContent = (node.withChildren ys).textContent := by
  cases node with
  | text value position => simp [isText] at h
  | highlight value children position => simp only [withChildren, textContent, hcontents]
  | element kind value attributes children position =>
    -- Without children the element stands for its value, so both lists must be empty or neither.
    cases xs with
    | nil => rw [hnil.mp rfl]
    | cons x xs =>
      obtain ⟨y, ys, rfl⟩ := List.exists_cons_of_ne_nil (mt hnil.mpr (List.cons_ne_nil x xs))
      simp only [withChildren, textContent, hcontents]

end

end Node

namespace Delimiter

variable (delimiter : Delimiter)

/-! ## What a pass leaves -/

/-- The nodes that a text is cut into stand for the stripped text. -/
theorem textContents_split (text : String) (position : Option Position) :
    Node.textContents (delimiter.split text position) = delimiter.stripped text := by
  have hvalues : ∀ node ∈ delimiter.split text position, node.value? = some node.textContent := by
    intro node hnode
    cases node with
    | text value own => simp only [Node.value?, Node.textContent]
    | highlight value children own =>
      -- The one child of a highlight repeats its value.
      obtain ⟨-, -, rfl, -⟩ := delimiter.highlight_of_mem_split text position hnode
      simp [Node.value?, Node.textContent, Node.textContents]
    | element kind value attributes children own =>
      have hkind := (delimiter.carried_of_mem_split text position hnode).1
      simp [Node.isText, Node.isHighlight] at hkind
  rw [Node.textContents_eq_join hvalues, join_values_split, flatMap_content_segments, stripped]

theorem textContents_splitAmong (nodes : List Node) :
    Node.textContents (delimiter.splitAmong nodes) = Node.textContents (Node.mapEach delimiter.stripped nodes) := by
  induction nodes using Node.forestInduction with
  | nil => simp only [splitAmong_nil, Node.mapEach]
  | text value position nodes ih =>
    rw [splitAmong_text, Node.textContents_append, textContents_split, ih, Node.mapEach, Node.textContents,
      Node.mapTexts, Node.textContent]
  | parent node children nodes hchildren ihchildren ihnodes =>
    -- Neither the pass nor the change of texts turns the node into a leaf, or a leaf into something else.
    have hnode := Node.textContent_withChildren (Node.isText_of_children? hchildren)
      (delimiter.splitAmong_eq_nil_iff.trans Node.mapEach_eq_nil_iff.symm) ihchildren
    rw [delimiter.splitAmong_of_children? hchildren, Node.mapEach, Node.mapTexts_of_children? hchildren,
      Node.textContents, Node.textContents, hnode, ihnodes]

/-- **A pass takes off marker pairs only**: a tree stands behind it for the tree as it was with each text stripped. -/
theorem textContent_highlight {tree : Node} (h : tree.isText = false) :
    (delimiter.highlight tree).value.textContent = (tree.mapTexts delimiter.stripped).textContent := by
  -- Among siblings a tree that is no text is cut as by itself.
  have hamong := delimiter.textContents_splitAmong [tree]
  rw [delimiter.splitAmong_singleton h, Node.mapEach, Node.mapEach] at hamong
  simpa [Node.textContents] using hamong

end Delimiter

/-- A document with spans at different depths, below a highlight of another value, and in values that no pass reads. -/
def scatteredSpans : Node :=
  .element "root" none .empty
    [.text "!!!a!!!b" none,
      .element "inlineCode" (some "!!c!!") .empty [] none,
      .highlight "d" [.text "!!e!!!!f!!" none, .element "emphasis" (some "!!g!!") .empty [.text "!!h!!" none] none] none,
      .text "" none, .text "!!i" none, .text "!!" none] none

theorem textContent_highlight_scatteredSpans :
    scatteredSpans.isText = false ∧
      (Delimiter.standard.highlight scatteredSpans).value.textContent =
        (scatteredSpans.mapTexts Delimiter.standard.stripped).textContent ∧
      (scatteredSpans.mapTexts Delimiter.standard.stripped).textContent = "!a!b!!c!!efh!!i!!" :=
  ⟨rfl, Delimiter.textContent_highlight .standard rfl, by decide +kernel⟩

end Highlighter
