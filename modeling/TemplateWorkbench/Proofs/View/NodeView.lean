import TemplateWorkbench.Proofs.Outline.Parts
import TemplateWorkbench.Proofs.Template.Grammar.Ending
import TemplateWorkbench.Proofs.View.EngineViews

/-!
# No node is lost

The tree of a source is walked through, turned into plain data and outlined, and each time it is decided
anew what is a node below another one.  All three come to the nodes that the grammar has read, in the same
order.

The tree of a source is shallow and tidy, and no line of a node is beyond the last line of the source.  So its
plain data can be written and read again, and its outline is cut at its line feeds into the lines that it was
made of.
-/

/-! ## The lines of nodes -/

namespace TemplateWorkbench.Template

open Lexer

theorem newlines_le_length (text : List Char) : newlines text ≤ text.length := List.count_le_length

theorem length_replaceCrLf_le (text : List Char) : (Text.replaceCrLf text).length ≤ text.length := by
  induction text using Text.replaceCrLf.induct with
  | case1 rest ih => simpa [Text.replaceCrLf] using Nat.le_succ_of_le ih
  | case2 c rest hother ih => simpa [Text.replaceCrLf] using ih
  | case3 => rfl

/-- To bring line ends to LF makes a text no longer. -/
theorem length_normalize_le (text : List Char) : (Text.normalize text).length ≤ text.length := by
  rw [Text.normalize, Text.replaceCr, List.length_map]
  exact length_replaceCrLf_le text

/-- The pieces of a text that begins at a line are on the lines of the text. -/
theorem line_le_of_cut {within : Bool} {line : Nat} {text : List Char} {pieces : List Piece}
    (hcut : Cut within line text pieces) : ∀ piece ∈ pieces, piece.line ≤ line + newlines text := by
  induction hcut with
  | ending => exact nofun
  | spoken gap piece _ _ hline _ _ ih | quiet gap piece _ _ hline _ _ _ ih =>
      simp only [newlines_append]
      refine List.forall_mem_cons.mpr ⟨by omega, fun other hother => ?_⟩
      have hother := ih other hother
      omega

/-- The tokens of a source that is read to its end are on lines of the source. -/
theorem line_le_of_mem_tokenize {source : List Char} (hfault : (lex source).fault = none) {token : Token}
    (htoken : token ∈ (tokenize source).tokens) : token.line ≤ newlines (Text.normalize source) + 1 := by
  obtain ⟨piece, hpiece, -, hline⟩ := exists_piece_of_mem_tokensOf htoken
  rw [← hline, Nat.add_comm]
  exact line_le_of_cut (cut_lex hfault) piece hpiece

theorem fault_of_tokensOf {ending : Option (Nat × LexicalFault)} {pieces : List Piece}
    (hfault : (tokensOf ending pieces).fault = none) : ending = none := by
  induction pieces with
  | nil => simpa [tokensOf] using hfault
  | cons piece rest ih =>
      unfold tokensOf at hfault
      split at hfault
      · cases hfault
      · exact ih hfault
      · exact ih hfault

/-- No node is beyond the last line of its source. -/
theorem line_le_of_parse {source : List Char} {body : List Statement} (hparse : parse source = .ok body)
    {head : Head} (hhead : head ∈ templateHeads body) :
    0 ≤ head.line ∧ head.line ≤ newlines (Text.normalize source) + 1 := by
  have hfault : (lex source).fault = none := fault_of_tokensOf (fault_of_parse_eq_ok hparse)
  rcases line_of_parse hparse hhead with hline | hline | ⟨token, htoken, hline⟩
  · omega
  · omega
  · have hle := line_le_of_mem_tokenize hfault htoken
    omega

end TemplateWorkbench.Template

/-! ## Trees of sources -/

namespace TemplateWorkbench

open Number (isShort)
open Results

/-- What is between zero and a short integer is short. -/
theorem Number.isShort_of_le {n bound : Int} (hzero : 0 ≤ n) (hle : n ≤ bound)
    (hbound : isShort bound = true) : isShort n = true := by
  rw [isShort, Bool.not_eq_true', isTooLong_eq_false_iff] at hbound ⊢
  omega

/-- A text is the outline that a tree should have if it is made of one line for each part of the tree.  The
headers among the parts are the nodes of the walk, in its order and each with its level; besides these there
are just the fields of every node, and what stands beside nodes in them. -/
structure Tree.IsOutlined (tree : Tree) (text : String) : Prop where
  lines : List.Forall₂ (fun part line => part.text = .ok (String.ofList line)) (tree.parts 0)
    (text.toList.splitOn '\n')
  headers : (tree.parts 0).filterMap Part.header? = tree.walkFrom 0
  levels : (tree.walkFrom 0).map Prod.snd = tree.walk
  parts : (tree.parts 0).Perm ((tree.walkFrom 0).flatMap ownParts)

theorem Tree.isOutlined_of_outline {tree : Tree} (htidy : tree.isTidy = true) {text : String}
    (houtline : tree.outline = .ok text) : tree.IsOutlined text :=
  ⟨forall₂_lines_of_outline htidy houtline, headers_parts 0 tree, snd_walkFrom 0 tree, perm_parts 0 tree⟩

namespace TemplateEngine

variable {source : String} {tree : Tree}

/-- The tree of a source shows the nodes of what the grammar has read. -/
theorem exists_shows_of_tree (htree : TemplateEngine.tree source = .ok tree) :
    ∃ body, Template.parse source.toList = .ok body ∧ tree.Shows (Template.templateHeads body) := by
  unfold TemplateEngine.tree at htree
  obtain ⟨body, hbody, hdisplay⟩ := bind_eq_ok_iff.mp htree
  cases hdisplay
  exact ⟨body, mapError_eq_ok_iff.mp hbody, Template.shows_displayTree body⟩

/-- The lines of the tree of a source are short if the characters of the source can be counted. -/
theorem isShort_line_of_tree (htree : TemplateEngine.tree source = .ok tree)
    (hlength : isShort (source.length + 1) = true) : ∀ node ∈ tree.walk, isShort node.line = true := by
  intro node hnode
  obtain ⟨body, hparse, hshows⟩ := exists_shows_of_tree htree
  have hhead : node.head ∈ Template.templateHeads body := by
    rw [← hshows.walk]
    exact List.mem_map.mpr ⟨node, hnode, rfl⟩
  obtain ⟨hzero, hle⟩ := Template.line_le_of_parse hparse hhead
  have hlines : Template.Lexer.newlines (Text.normalize source.toList) ≤ source.length :=
    (Template.newlines_le_length _).trans (Template.length_normalize_le _)
  exact Number.isShort_of_le hzero (hle.trans (by omega)) hlength

/-- A source with text, a loop over a list, a filter with an argument and a switch of escaping. -/
def switchedLoop : String :=
  "a\n\x7b% for b in [1, c] %\x7d\n\x7b\x7b b|d(e=2) \x7d\x7d\x7b% endfor %\x7d" ++
    "\x7b% autoescape true %\x7d\x7b% endautoescape %\x7d"

end TemplateEngine

end TemplateWorkbench
