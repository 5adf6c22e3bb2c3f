import Highlighter.Proofs.Document.Places
import Highlighter.Proofs.Walk.Replacement

/-!
# Walks that go forward

A visitor goes forward if it does nothing to the siblings but put nodes in the place of the text it is called with, and
sends the walk on behind these nodes, however far. Main statement: a walk with such a visitor ends within the size of the
tree; it calls the visitor with texts of the tree as it was, in document order and each at most once; and what it leaves
out between two calls are the texts of the siblings that it was sent past, which are no more than the siblings there are.

To speak of calls, the visitor is made to keep a record of them, which changes nothing else.
-/

namespace Highlighter

/-! ## Calls -/

/-- A call of a visitor, with what it did to the siblings and the index from which it sent the walk on. -/
structure Call where
  siblings : List Node
  index : Nat
  left : List Node
  resume : Nat

namespace Call

/-- The node that the visitor was called with. -/
def node? (call : Call) : Option Node := call.siblings[call.index]?

theorem node?_of_drop {call : Call} {node : Node} {after : List Node}
    (h : call.siblings.drop call.index = node :: after) : call.node? = some node := by
  rw [node?, ← List.head?_drop, h, List.head?_cons]

end Call

namespace Visitor

variable {σ : Type}

/-- The visitor that also keeps its calls, the last one at the end. -/
def recording (visitor : Visitor σ) : Visitor (σ × List Call) := fun state siblings index =>
  let visit := visitor state.1 siblings index
  ⟨(visit.state, state.2 ++ [⟨siblings, index, visit.siblings, visit.resume.index index⟩]), visit.siblings,
    visit.resume⟩

/-- A visitor that goes forward: it puts some nodes in the place of the text, and sends the walk on behind them. -/
def Forward (visitor : Visitor σ) : Prop :=
  ∀ state before value position after,
    let visit := visitor state (before ++ .text value position :: after) before.length
    ∃ inserted, visit.siblings = before ++ inserted ++ after ∧
      (before ++ inserted).length ≤ visit.resume.index before.length

end Visitor

namespace Walk

variable {σ : Type} {visitor : Visitor σ}

/-! ## Recording changes nothing else -/

theorem siblings_recording (visitor : Visitor σ) (budget : Nat) (state : σ) (calls : List Call)
    (nodes : List Node) (index : Nat) :
    (siblings visitor.recording budget (state, calls) nodes index).map (fun walked => (walked.1.1, walked.2)) =
      siblings visitor budget state nodes index := by
  -- The calls ride along in the state, and the walk never looks at them.
  induction budget generalizing state calls nodes index with
  | zero => rfl
  | succ budget ih =>
    simp only [siblings]
    cases nodes[index]? with
    | none => rfl
    | some node =>
      cases hchildren : node.children? with
      | none =>
        simp only [hchildren]
        exact ih ..
      | some children =>
        simp only [hchildren, ← ih state calls children 0]
        cases siblings visitor.recording budget (state, calls) children 0 with
        | none => rfl
        | some walked => exact ih ..

/-- A walk with a visitor that keeps its calls is the walk with the visitor. -/
theorem texts_of_recording {budget : Nat} {state final : σ} {calls made : List Call} {tree left : Node}
    {records : List Log.Record}
    (h : texts visitor.recording budget (state, calls) tree = some ⟨((final, made), left), records⟩) :
    texts visitor budget state tree = some ⟨(final, left), records⟩ := by
  unfold texts at h ⊢
  split at h
  case h_1 => simp_all
  case h_2 children hchildren =>
    rw [← siblings_recording visitor budget state calls children 0]
    cases hwalk : siblings visitor.recording budget (state, calls) children 0 <;>
      simp_all [Logged.silent]

/-! ## The course of a walk -/

/-- How a walk goes over siblings, of which it is done with `front` and has not touched `rest`: the calls it makes, and the
state and the siblings that it leaves. Each call is about a text of `rest`. -/
inductive Course (visitor : Visitor σ) : σ → List Node → List Node → List Call → σ → List Node → Prop where
  | ended (state : σ) (front : List Node) : Course visitor state front [] [] state front
  /-- The visitor puts nodes in the place of a text, and the walk is sent past some of the siblings behind them. If these
  are all, or more than there are, the walk over these siblings has ended. -/
  | visited {state next final : σ} {front rest nodes : List Node} {value : String}
      {position : Option Position} {calls : List Call} (inserted : List Node) (skipped : Nat) (resume : Resume)
      (answer : visitor state (front ++ .text value position :: rest) front.length =
        ⟨next, front ++ inserted ++ rest, resume⟩)
      (resumed : resume.index front.length = (front ++ inserted).length + skipped)
      (goesOn : Course visitor next (front ++ inserted ++ rest.take skipped) (rest.drop skipped) calls final nodes) :
      Course visitor state front (.text value position :: rest)
        (⟨front ++ .text value position :: rest, front.length, front ++ inserted ++ rest,
          (front ++ inserted).length + skipped⟩ :: calls) final nodes
  /-- The walk goes over the children of a node, and then to the sibling behind the node, wherever among the children it
  has ended. -/
  | entered {state between final : σ} {front rest children kept nodes : List Node} {node : Node}
      {inner calls : List Call} (parent : node.children? = some children)
      (below : Course visitor state [] children inner between kept)
      (goesOn : Course visitor between (front ++ [node.withChildren kept]) rest calls final nodes) :
      Course visitor state front (node :: rest) (inner ++ calls) final nodes

theorem sizes_drop_le (nodes : List Node) (count : Nat) : Node.sizes (nodes.drop count) ≤ Node.sizes nodes := by
  induction count generalizing nodes with
  | zero => simp
  | succ count ih =>
    cases nodes with
    | nil => simp
    | cons node nodes =>
      have hrest := ih nodes
      simp only [List.drop_succ_cons, Node.sizes]
      omega

/-- A walk with a visitor that goes forward has a course, and ends within the size of what is left. -/
theorem exists_course (h : visitor.Forward) (budget : Nat) (state : σ) (calls : List Call)
    (front rest : List Node) {index : Nat} (hindex : index = front.length ∨ rest = [] ∧ front.length ≤ index)
    (hbudget : Node.sizes rest < budget) :
    ∃ final made nodes,
      siblings visitor.recording budget (state, calls) (front ++ rest) index =
        some ((final, calls ++ made), nodes) ∧
      Course visitor state front rest made final nodes := by
  induction budget generalizing state calls front rest index with
  | zero => omega
  | succ budget ih =>
    cases rest with
    | nil =>
      -- The walk is at the end of the siblings, or was sent past it.
      have hend : front.length ≤ index := by
        rcases hindex with hindex | ⟨-, hindex⟩ <;> omega
      refine ⟨state, [], front, ?_, .ended state front⟩
      rw [List.append_nil, List.append_nil, siblings_of_length_le budget _ hend]
    | cons node rest =>
      obtain rfl : index = front.length := by simpa using hindex
      simp only [Node.sizes] at hbudget
      cases hchildren : node.children? with
      | none =>
        obtain ⟨value, position, rfl⟩ := Node.eq_text_of_children? hchildren
        -- The visitor goes forward, so the walk goes on behind what was put in, or past the end of all siblings.
        obtain ⟨inserted, hsiblings, hresume⟩ := h state front value position rest
        obtain ⟨skipped, hskipped⟩ := Nat.exists_eq_add_of_le hresume
        have hsize := sizes_drop_le rest skipped
        have hstand : (front ++ inserted).length + skipped = (front ++ inserted ++ rest.take skipped).length ∨
            rest.drop skipped = [] ∧
              (front ++ inserted ++ rest.take skipped).length ≤ (front ++ inserted).length + skipped := by
          simp only [List.length_append, List.length_take, List.drop_eq_nil_iff]
          omega
        simp only [Node.size] at hbudget
        obtain ⟨final, made, nodes, hwalk, hcourse⟩ :=
          ih (visitor state (front ++ .text value position :: rest) front.length).state
            (calls ++ [⟨front ++ .text value position :: rest, front.length, front ++ inserted ++ rest,
              (front ++ inserted).length + skipped⟩]) _ _ hstand (by omega)
        refine ⟨final, _, nodes, ?_, .visited inserted skipped _ ?_ hskipped hcourse⟩
        · rw [siblings_text]
          simp only [Visitor.recording, hsiblings, hskipped]
          rw [List.append_assoc (front ++ inserted), List.take_append_drop] at hwalk
          rw [hwalk, List.append_assoc, List.singleton_append]
        · rw [← hsiblings]
      | some children =>
        -- The children are walked with the calls made so far, and then what stands behind the node.
        have hsize := Rule.size_of_children? hchildren
        obtain ⟨between, inner, kept, hinner, hbelow⟩ := ih state calls [] children (.inl rfl) (by omega)
        obtain ⟨final, made, nodes, hwalk, hcourse⟩ :=
          ih between (calls ++ inner) (front ++ [node.withChildren kept]) rest (.inl rfl) (by omega)
        refine ⟨final, inner ++ made, nodes, ?_, .entered hchildren hbelow hcourse⟩
        rw [siblings_parent budget hchildren hinner, hwalk, List.append_assoc]

/-- The walk over a whole tree: its course starts with nothing done. -/
theorem exists_course_texts (h : visitor.Forward) (state : σ) {budget : Nat} {tree : Node} {children : List Node}
    (hchildren : tree.children? = some children) (hbudget : tree.size ≤ budget) :
    ∃ final made nodes,
      texts visitor.recording budget (state, []) tree =
        some ⟨((final, made), tree.withChildren nodes), []⟩ ∧
      Course visitor state [] children made final nodes := by
  have hsize := Rule.size_of_children? hchildren
  obtain ⟨final, made, nodes, hwalk, hcourse⟩ :=
    exists_course h budget state [] [] children (.inl rfl) (by omega)
  refine ⟨final, made, nodes, ?_, hcourse⟩
  simp only [List.nil_append, List.length_nil] at hwalk
  simp [texts, hchildren, hwalk, Logged.silent]

/-! ## Calls go over places -/

/-- Calls go over the places of texts in order. Each is about the text in the next place, with the siblings behind it as they
were in the tree, and puts nodes in the place of the text. Where it sends the walk past some of the siblings behind, the
texts among and below them are left out. -/
inductive Visits : List Node.Place → List Call → Prop where
  | ended : Visits [] []
  | visited {place : Node.Place} {places : List Node.Place} {call : Call} {calls : List Call}
      (inserted : List Node) (skipped : Nat)
      (about : call.siblings.drop call.index = place.text :: place.after)
      (replaced : call.left = call.siblings.take call.index ++ inserted ++ place.after)
      (resumed : call.resume = call.index + inserted.length + skipped)
      (goesOn : Visits (places.drop (Node.textCount (place.after.take skipped))) calls) :
      Visits (place :: places) (call :: calls)

theorem Course.visits {state final : σ} {front rest nodes : List Node} {made more : List Call}
    (h : Course visitor state front rest made final nodes) (first : Nat) (before : List Node)
    {others : List Node.Place} (hmore : Visits others more) :
    Visits (Node.placesAmong first before rest ++ others) (made ++ more) := by
  induction h generalizing first before others more with
  | ended state front => simpa [Node.placesAmong] using hmore
  | @visited state next final front rest nodes value position calls inserted skipped resume answer resumed goesOn ih =>
    have hrest := ih first (before ++ [.text value position] ++ rest.take skipped) hmore
    have hcount : Node.textCount (rest.take skipped) ≤
        (Node.placesAmong first (before ++ [.text value position]) rest).length := by
      have hparts := Node.textCount_append (rest.take skipped) (rest.drop skipped)
      rw [List.take_append_drop] at hparts
      rw [Node.length_placesAmong]
      omega
    rw [Node.placesAmong, List.cons_append, List.cons_append]
    refine .visited inserted skipped ?_ ?_ ?_ ?_
    · simp
    · simp
    · simp
    · rw [List.drop_append_of_le_length hcount, Node.drop_placesAmong]
      exact hrest
  -- The places below the node come first, and those behind it are the others of that walk.
  | @entered state between final front rest children kept nodes node inner calls parent below goesOn ihbelow ihrest =>
    rw [Node.placesAmong_of_children? first before parent, List.append_assoc, List.append_assoc]
    exact ihbelow _ [] (ihrest first (before ++ [node]) hmore)

namespace Visits

variable {places : List Node.Place} {calls : List Call}

/-- The texts of the calls are some of those in the places, in the same order. -/
theorem sublist (h : Visits places calls) : (calls.map Call.node?).Sublist (places.map (some ·.text)) := by
  induction h with
  | ended => exact .slnil
  | visited inserted skipped about replaced resumed goesOn ih =>
    rw [List.map_cons, List.map_cons, Call.node?_of_drop about]
    exact (ih.trans ((List.drop_sublist ..).map _)).cons_cons _

theorem head? (h : Visits places calls) : calls.head?.map Call.node? = places.head?.map (some ·.text) := by
  cases h with
  | ended => rfl
  | visited inserted skipped about replaced resumed goesOn => exact congrArg some (Call.node?_of_drop about)

/-- Behind a call that sends the walk to the end of its siblings or past it, the next call is about the next text that is
not among or below these siblings. -/
theorem next_of_past_end (h : Visits places calls) {earlier later : List Call} {call : Call}
    (hcalls : calls = earlier ++ call :: later) (hpast : call.left.length ≤ call.resume) :
    ∃ done place pending, places = done ++ place :: pending ∧
      call.siblings.drop call.index = place.text :: place.after ∧
      later.head?.map Call.node? =
        (pending.drop (Node.textCount place.after)).head?.map (some ·.text) := by
  induction h generalizing earlier with
  | ended => simp at hcalls
  | @visited place places current calls inserted skipped about replaced resumed goesOn ih =>
    cases earlier with
    | nil =>
      obtain ⟨rfl, rfl⟩ := List.cons.inj hcalls
      have hindex : current.index < current.siblings.length := by
        refine Nat.lt_of_not_le fun hend => ?_
        rw [List.drop_of_length_le hend] at about
        exact List.cons_ne_nil _ _ about.symm
      -- The walk goes on past the end, so all siblings behind the text are skipped.
      have hall : place.after.length ≤ skipped := by
        simp only [replaced, resumed, List.length_append, List.length_take] at hpast
        omega
      rw [List.take_of_length_le hall] at goesOn
      exact ⟨[], place, places, rfl, about, goesOn.head?⟩
    | cons other earlier =>
      -- The call comes later, and the places passed over before it are put in front.
      obtain ⟨rfl, htail⟩ := List.cons.inj hcalls
      obtain ⟨done, other, pending, hplaces, hrest⟩ := ih htail
      refine ⟨place :: (places.take (Node.textCount (place.after.take skipped)) ++ done), other, pending, ?_,
        hrest⟩
      rw [List.cons_append, List.append_assoc, ← hplaces, List.take_append_drop]

end Visits

/-! ## Walks over trees -/

/-- The calls of a walk that goes forward over a tree. -/
structure CallsForward (tree : Node) (calls : List Call) : Prop where
  /-- The calls are about texts of the tree that have a parent, in document order and each at most once. -/
  ordered : (calls.map Call.node?).Sublist (tree.textNodes.map some)
  /-- There are no more calls than such texts. -/
  bounded : calls.length ≤ tree.textNodes.length
  /-- The index of a call is in range, and there is a text. -/
  onText : ∀ call ∈ calls, ∃ value position, call.siblings[call.index]? = some (.text value position)
  /-- Behind each call, only the texts of the siblings that it skips are left out. -/
  visits : Visits tree.places calls
  /-- If a call sends the walk past the end of its siblings, the walk goes on behind their parent: the next call is about
  the next text that is not among or below them. -/
  pastEnd : ∀ earlier call later, calls = earlier ++ call :: later → call.left.length ≤ call.resume →
    ∃ done place pending, tree.places = done ++ place :: pending ∧
      call.siblings.drop call.index = place.text :: place.after ∧
      later.head?.map Call.node? =
        (pending.drop (Node.textCount place.after)).head?.map (some ·.text)

theorem Visits.callsForward {tree : Node} {calls : List Call} (h : Visits tree.places calls) : CallsForward tree calls := by
  -- The calls are about some of the texts in document order, so each is about one of them.
  have hordered : (calls.map Call.node?).Sublist (tree.textNodes.map some) := by
    rw [← Node.map_text_places, List.map_map]
    exact h.sublist
  refine ⟨hordered, by simpa using hordered.length_le, ?_, h, fun _ _ _ => h.next_of_past_end⟩
  intro call hcall
  obtain ⟨text, htext, hnode⟩ := List.mem_map.mp (hordered.subset (List.mem_map_of_mem hcall))
  have hisText : text.isText = true := (List.mem_filter.mp htext).2
  cases text with
  | text value position => exact ⟨value, position, hnode.symm⟩
  | highlight value children position => simp [Node.isText] at hisText
  | element kind value attributes children position => simp [Node.isText] at hisText

/-- **A walk that goes forward ends.** A budget of the size of the tree is enough for it, and its calls go forward over
the tree. -/
theorem texts_of_forward (h : visitor.Forward) (state : σ) (tree : Node) (spare : Nat) :
    ∃ final calls left records,
      texts visitor (tree.size + spare) state tree = some ⟨(final, left), records⟩ ∧
      texts visitor.recording (tree.size + spare) (state, []) tree = some ⟨((final, calls), left), records⟩ ∧
      CallsForward tree calls := by
  cases hchildren : tree.children? with
  | none =>
    -- The root is a text, and has no parent.
    obtain ⟨value, position, rfl⟩ := Node.eq_text_of_children? hchildren
    exact ⟨state, [], _, _, rfl, rfl, Visits.callsForward .ended⟩
  | some children =>
    obtain ⟨final, calls, nodes, hwalk, hcourse⟩ :=
      exists_course_texts h state hchildren (Nat.le_add_right tree.size spare)
    have hvisits : Visits tree.places calls := by
      have hall := hcourse.visits 0 [] .ended
      rwa [List.append_nil, List.append_nil, ← Node.placesBelow_of_children? 0 hchildren] at hall
    exact ⟨final, calls, _, _, texts_of_recording hwalk, hwalk, hvisits.callsForward⟩

/-- A visitor that puts a highlight and a text in the place of each text, and leaves out more of the siblings behind with
each call. -/
def hasty : Visitor Nat := fun calls siblings index =>
  let (inserted, siblings) := (replaceChild siblings index [.span "a" none, .text "b" none]).value
  ⟨calls + 1, siblings, .skipTo (index + inserted + 2 * calls)⟩

theorem forward_hasty : hasty.Forward := by
  intro calls before value position after
  refine ⟨[.span "a" none, .text "b" none], ?_, ?_⟩
  · simp [hasty, replaceChild_append, Logged.silent]
  · simp only [hasty, replaceChild_append, Logged.silent, Resume.index, List.length_append]
    omega

/-- A paragraph with texts and an emphasis, in front of another text. -/
def mixedTexts : Node :=
  .element "root" none .empty
    [.element "paragraph" none .empty
      [.text "c" none, .element "emphasis" none .empty [.text "d" none] none, .text "e" none, .text "f" none] none,
      .text "g" none] none

theorem texts_of_forward_hasty :
    hasty.Forward ∧
      ∃ final calls left records,
        texts hasty (mixedTexts.size + 0) 0 mixedTexts = some ⟨(final, left), records⟩ ∧
        texts hasty.recording (mixedTexts.size + 0) (0, []) mixedTexts = some ⟨((final, calls), left), records⟩ ∧
        CallsForward mixedTexts calls :=
  ⟨forward_hasty, texts_of_forward forward_hasty 0 mixedTexts 0⟩

end Walk

end Highlighter
