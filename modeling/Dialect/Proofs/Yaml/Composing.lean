import Dialect.Proofs.Yaml.Lexing
import Dialect.Yaml.Node

namespace Dialect.Yaml

variable {text : List Char}

def Reading.Sound (text : List Char) (s : Reading) : Prop := Explained text s.tokens

namespace Read

-- Composing refuses only what the text has, and its tokens stay explained.
abbrev Stays {α : Type} (text : List Char) (x : Read α) : Prop :=
  Keeps (Unscannable text) (Reading.Sound text) x

variable {α : Type}

theorem malformed_stays : Stays (α := α) text malformed := .malformed

theorem peek_stays : Stays text peek := by
  unfold peek
  refine .get_bind fun s hs => ?_
  split
  · next e htoken =>
    refine .refused (hs e ?_)
    cases htokens : s.tokens with
    | nil =>
        rw [htokens] at htoken
        cases htoken
    | cons t ts =>
        rw [htokens] at htoken
        exact htoken ▸ List.mem_cons_self
  · exact .pure _

theorem drop_stays : Stays text drop := by
  unfold drop
  exact .modify fun s hs e he => hs e (List.mem_of_mem_drop he)

theorem create_stays (tag : Tag) (body : Body) : Stays text (create tag body) := by
  unfold create
  exact .get_bind fun s hs => .bind (.set hs) fun _ => .pure _

theorem emptyNode_stays : Stays text emptyNode := create_stays _ _

theorem anchor?_stays : Stays text anchor? := by
  unfold anchor?
  refine .bind peek_stays fun t => ?_
  split
  · exact .bind drop_stays fun _ => .pure _
  · exact .pure _

theorem tag?_stays : Stays text tag? := by
  unfold tag?
  refine .bind peek_stays fun t => ?_
  split
  · exact .bind drop_stays fun _ => .pure _
  · exact .pure _

theorem properties_stays : Stays text properties := by
  unfold properties
  refine .bind anchor?_stays fun anchor => ?_
  split
  · exact .bind tag?_stays fun tag => .pure _
  · refine .bind tag?_stays fun tag => ?_
    split
    · exact .bind anchor?_stays fun anchor => .pure _
    · exact .pure _

theorem tagName_stays (tag : Option (Option String × String)) : Stays text (tagName tag) := by
  unfold tagName
  split
  · exact .pure _
  · exact .pure _
  · refine .bind .get fun s => ?_
    split
    · exact .pure _
    · exact malformed_stays

theorem openAnchor_stays (anchor : Option String) : Stays text (openAnchor anchor) := by
  unfold openAnchor
  split
  · exact .pure _
  · exact .get_bind fun s hs => .when_bind (fun _ => malformed_stays) (.set hs)

theorem closeAnchor_stays (anchor : Option String) (n : Nat) :
    Stays text (closeAnchor anchor n) := by
  unfold closeAnchor
  split
  · exact .pure _
  · exact .bind (.modify fun s hs => hs) fun _ => .pure _

theorem aliased_stays (name : String) : Stays text (aliased name) := by
  unfold aliased
  refine .bind .get fun s => ?_
  split
  · exact .pure _
  · exact malformed_stays

theorem separator_stays (first : Bool) : Stays text (separator first) := by
  unfold separator
  refine .ite (.pure _) (.bind peek_stays fun t => ?_)
  split
  · exact drop_stays
  · exact malformed_stays

theorem empty_stays (p : Properties) (name : Option String) : Stays text (empty p name) := by
  unfold empty
  exact .ite (create_stays _ _) malformed_stays

section Nodes

variable {fuel : Nat}

-- Composing keeps its tokens explained in whichever part of a document it is.
structure NodesStay (text : List Char) (fuel : Nat) : Prop where
  node : ∀ place, Stays text (node fuel place)
  content : ∀ place p name, Stays text (content fuel place p name)
  blockItems : Stays text (blockItems fuel)
  indentless : Stays text (indentless fuel)
  blockEntries : Stays text (blockEntries fuel)
  blockValue : Stays text (blockValue fuel)
  flowItems : ∀ first, Stays text (flowItems fuel first)
  flowEntries : ∀ first, Stays text (flowEntries fuel first)
  flowValue : ∀ closing, Stays text (flowValue fuel closing)

variable (h : NodesStay text fuel)
include h

-- An entry is empty or a node, and what comes after it is the same.
theorem emptyOr_bind {c : Prop} [Decidable c] {place : Place} {f : Nat → Read α}
    (hf : ∀ n, Stays text (f n)) :
    Stays text (if c then emptyNode >>= f else node fuel place >>= f) :=
  .ite (.bind emptyNode_stays hf) (.bind (h.node place) hf)

theorem node_stays_succ (place : Place) : Stays text (node (fuel + 1) place) := by
  unfold node
  refine .bind peek_stays fun t => ?_
  split
  · exact .bind drop_stays fun _ => aliased_stays _
  · refine .bind properties_stays fun p => .bind (tagName_stays p.tag) fun name => ?_
    refine .bind peek_stays fun _ => .bind (openAnchor_stays p.anchor) fun _ => ?_
    exact .bind (h.content place p name) fun n => closeAnchor_stays p.anchor n

theorem content_stays_succ (place : Place) (p : Properties) (name : Option String) :
    Stays text (content (fuel + 1) place p name) := by
  unfold content
  refine .bind peek_stays fun t => ?_
  split
  · exact .ite (.bind h.indentless fun _ => create_stays _ _) (empty_stays p name)
  · exact .bind drop_stays fun _ => create_stays _ _
  · exact .bind drop_stays fun _ => .bind (h.flowItems true) fun _ => create_stays _ _
  · exact .bind drop_stays fun _ => .bind (h.flowEntries true) fun _ => create_stays _ _
  · refine .ite (.bind drop_stays fun _ => ?_) (empty_stays p name)
    exact .bind h.blockItems fun _ => create_stays _ _
  · refine .ite (.bind drop_stays fun _ => ?_) (empty_stays p name)
    exact .bind h.blockEntries fun _ => create_stays _ _
  · exact empty_stays p name

theorem blockItems_stays_succ : Stays text (blockItems (fuel + 1)) := by
  unfold blockItems
  refine .bind peek_stays fun t => ?_
  split
  · refine .bind drop_stays fun _ => .bind peek_stays fun t => ?_
    exact emptyOr_bind h fun n => .bind h.blockItems fun ns => .pure _
  · exact .bind drop_stays fun _ => .pure _
  · exact malformed_stays

theorem indentless_stays_succ : Stays text (indentless (fuel + 1)) := by
  unfold indentless
  refine .bind peek_stays fun t => ?_
  split
  · refine .bind drop_stays fun _ => .bind peek_stays fun t => ?_
    exact emptyOr_bind h fun n => .bind h.indentless fun ns => .pure _
  · exact .pure _

theorem blockEntries_stays_succ : Stays text (blockEntries (fuel + 1)) := by
  unfold blockEntries
  refine .bind peek_stays fun t => ?_
  split
  · refine .bind drop_stays fun _ => .bind peek_stays fun t => emptyOr_bind h fun k => ?_
    exact .bind h.blockValue fun v => .bind h.blockEntries fun es => .pure _
  · exact .bind drop_stays fun _ => .pure _
  · exact malformed_stays

theorem blockValue_stays_succ : Stays text (blockValue (fuel + 1)) := by
  unfold blockValue
  refine .bind peek_stays fun t => ?_
  split
  · refine .bind drop_stays fun _ => .bind peek_stays fun t => ?_
    exact .ite emptyNode_stays (h.node _)
  · exact emptyNode_stays

theorem flowItems_stays_succ (first : Bool) : Stays text (flowItems (fuel + 1) first) := by
  unfold flowItems
  refine .bind peek_stays fun t => ?_
  split
  · exact .bind drop_stays fun _ => .pure _
  · refine .bind (separator_stays first) fun _ => .bind peek_stays fun t => ?_
    split
    · exact .bind drop_stays fun _ => .pure _
    · refine .bind drop_stays fun _ => .bind peek_stays fun t => emptyOr_bind h fun k => ?_
      refine .bind (h.flowValue _) fun v => .bind (create_stays _ _) fun n => ?_
      exact .bind (h.flowItems false) fun ns => .pure _
    · exact .bind (h.node _) fun n => .bind (h.flowItems false) fun ns => .pure _

theorem flowEntries_stays_succ (first : Bool) : Stays text (flowEntries (fuel + 1) first) := by
  unfold flowEntries
  refine .bind peek_stays fun t => ?_
  split
  · exact .bind drop_stays fun _ => .pure _
  · refine .bind (separator_stays first) fun _ => .bind peek_stays fun t => ?_
    split
    · exact .bind drop_stays fun _ => .pure _
    · refine .bind drop_stays fun _ => .bind peek_stays fun t => emptyOr_bind h fun k => ?_
      exact .bind (h.flowValue _) fun v => .bind (h.flowEntries false) fun es => .pure _
    · refine .bind (h.node _) fun k => .bind emptyNode_stays fun v => ?_
      exact .bind (h.flowEntries false) fun es => .pure _

theorem flowValue_stays_succ (closing : Token → Bool) :
    Stays text (flowValue (fuel + 1) closing) := by
  unfold flowValue
  refine .bind peek_stays fun t => ?_
  split
  · refine .bind drop_stays fun _ => .bind peek_stays fun t => ?_
    exact .ite emptyNode_stays (h.node _)
  · exact emptyNode_stays

end Nodes

theorem nodesStay (fuel : Nat) : NodesStay text fuel := by
  induction fuel with
  | zero =>
      exact ⟨fun _ => .malformed, fun _ _ _ => .malformed, .malformed, .malformed, .malformed,
        .malformed, fun _ => .malformed, fun _ => .malformed, fun _ => .malformed⟩
  | succ fuel ih =>
      exact {
        node := node_stays_succ ih
        content := content_stays_succ ih
        blockItems := blockItems_stays_succ ih
        indentless := indentless_stays_succ ih
        blockEntries := blockEntries_stays_succ ih
        blockValue := blockValue_stays_succ ih
        flowItems := flowItems_stays_succ ih
        flowEntries := flowEntries_stays_succ ih
        flowValue := flowValue_stays_succ ih }

theorem node_stays (fuel : Nat) (place : Place) : Stays text (node fuel place) :=
  (nodesStay fuel).node place

theorem directives_stays (fuel : Nat) (versioned : Bool) (handles : List (String × String)) :
    Stays text (directives fuel versioned handles) := by
  induction fuel generalizing versioned handles with
  | zero => exact .pure _
  | succ fuel ih =>
      unfold directives
      refine .bind peek_stays fun t => ?_
      split
      · refine .when_bind (fun _ => malformed_stays) ?_
        exact .bind drop_stays fun _ => ih _ _
      · refine .when_bind (fun _ => malformed_stays) ?_
        exact .bind drop_stays fun _ => ih _ _
      · exact .bind drop_stays fun _ => ih _ _
      · exact .pure _

theorem room_stays : Stays text room := .bind .get fun _ => .pure _

theorem skipEnds_stays (fuel : Nat) : Stays text (skipEnds fuel) := by
  induction fuel with
  | zero => exact .pure _
  | succ fuel ih =>
      unfold skipEnds
      refine .bind peek_stays fun t => ?_
      split
      · exact .bind drop_stays fun _ => ih
      · exact .pure _

theorem explicitDocument_stays : Stays text explicitDocument := by
  unfold explicitDocument
  refine .bind room_stays fun n => .bind (directives_stays n _ _) fun handles => ?_
  refine .bind peek_stays fun t => ?_
  split
  · refine .bind drop_stays fun _ => .bind (.modify fun s hs => hs) fun _ => ?_
    refine .bind peek_stays fun t => ?_
    split
    case h_7 => exact .bind room_stays fun n => node_stays n .block
    all_goals exact emptyNode_stays
  · exact malformed_stays

theorem document_stays : Stays text document := by
  unfold document
  refine .bind peek_stays fun t => ?_
  split
  case' h_1 => refine .bind (.pure _) fun _ => ?_
  case' h_6 => refine .bind room_stays fun n => .bind (node_stays n .block).map fun _ => ?_
  -- a directive or a marker at the start opens the document
  case' h_2 | h_3 | h_4 | h_5 => refine .bind explicitDocument_stays.map fun _ => ?_
  -- in each case nothing but document ends may follow
  all_goals
    refine .bind room_stays fun n => .bind (skipEnds_stays n) fun _ => .bind peek_stays fun t => ?_
    split
    · exact .pure _
    · exact .bind room_stays fun n => .bind (directives_stays n _ _) fun _ => malformed_stays

end Read

theorem Graph.ofText_meets (text : List Char) :
    Meets (Unscannable text) (fun _ => True) (Graph.ofText text) := by
  refine (tokens_meets text).bind fun ts hts => ?_
  exact (Read.document_stays ⟨ts, _, _, _, _⟩ hts).bind fun _ _ => Meets.pure.mpr trivial

end Dialect.Yaml
