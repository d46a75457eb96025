import NamedParams.Proofs.Text.LinePosition
import NamedParams.Source.File

namespace NamedParams.Source

open NamedParams.Text

namespace Tiles

variable {place stop : Nat} {text rest : List Char} {tokens : List Token}

/-- A token starts where the measure of the text before it says, and if it is a name, it ends where
    its letters do. -/
theorem exists_split (htiles : Tiles place text tokens stop rest) {token : Token}
    (htoken : token ∈ tokens) :
    ∃ before after, text = before ++ (token.text ++ after) ∧
      token.start = place + units before ∧
      (token.kind = .name → 0 < token.text.length ∧
        nameLength 0 (token.text ++ after) = token.text.length) := by
  induction htiles with
  | nil => cases htoken
  | @cons place stop more rest first others start_eq spelled tail ih =>
    rcases List.mem_cons.mp htoken with rfl | hothers
    · exact ⟨token.trivia, more, rfl, start_eq, spelled⟩
    · obtain ⟨before, after, hmore, hstart, hspelled⟩ := ih hothers
      refine ⟨first.trivia ++ (first.text ++ before), after, ?_, ?_, hspelled⟩
      · simp [hmore]
      · rw [hstart, start_eq, units_append, units_append]
        omega

/-- No token reaches into a later one. -/
theorem pairwise (htiles : Tiles place text tokens stop rest) :
    tokens.Pairwise fun a b => a.start + units a.text ≤ b.start := by
  induction htiles with
  | nil => exact List.Pairwise.nil
  | cons start_eq spelled tail ih =>
    refine List.Pairwise.cons ?_ ih
    intro later hlater
    obtain ⟨before, _, _, hstart, _⟩ := tail.exists_split hlater
    omega

theorem name_units_pos (htiles : Tiles place text tokens stop rest) {token : Token}
    (htoken : token ∈ tokens) (hname : token.kind = .name) : 0 < units token.text := by
  obtain ⟨_, _, _, _, hspelled⟩ := htiles.exists_split htoken
  exact units_pos (List.ne_nil_of_length_pos (hspelled hname).1)

/-- Two names of a text never start at the same place. -/
theorem names_nodup (htiles : Tiles place text tokens stop rest) :
    ((tokens.filter fun token => token.kind = .name).map Token.start).Nodup := by
  rw [List.Nodup, List.pairwise_map, List.pairwise_filter]
  refine htiles.pairwise.imp_of_mem ?_
  intro a b ha _ hle haname _ heq
  have hpos := htiles.name_units_pos ha (of_decide_eq_true haname)
  omega

end Tiles

namespace SourceFile

/-- All tokens of a file, from left to right. -/
def tokens (file : SourceFile) : List Token :=
  Tree.tokensOf file.statements

theorem tokens_names_nodup (file : SourceFile) :
    ((file.tokens.filter fun token => token.kind = .name).map Token.start).Nodup := by
  obtain ⟨stop, rest, htiles⟩ := file.tiles
  exact htiles.names_nodup

/-- A file has each of its tokens at the offset at which the token starts. -/
theorem exists_split (file : SourceFile) {token : Token} (htoken : token ∈ file.tokens) :
    ∃ before after, file.text = before ++ (token.text ++ after) ∧
      token.start = units before ∧
      (token.kind = .name → 0 < token.text.length ∧
        nameLength 0 (token.text ++ after) = token.text.length) := by
  obtain ⟨stop, rest, htiles⟩ := file.tiles
  obtain ⟨before, after, htext, hstart, hspelled⟩ := htiles.exists_split htoken
  exact ⟨before, after, htext, by rw [hstart, Nat.zero_add], hspelled⟩

/-- The position of a token has the offset at which the token starts. -/
theorem positionAt_start (file : SourceFile) {token : Token} (htoken : token ∈ file.tokens) :
    (positionAt file.text token.start).offset = token.start := by
  obtain ⟨before, after, htext, hstart, _⟩ := file.exists_split htoken
  rw [htext, hstart, positionAt_units]

end SourceFile

end NamedParams.Source
