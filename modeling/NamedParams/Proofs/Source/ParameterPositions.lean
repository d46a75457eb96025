import NamedParams.Proofs.Source.BuiltParameters

namespace NamedParams.Source

open NamedParams.Text

namespace Tree

theorem tokens_subset_tokensOf {tree : Tree} {trees : List Tree} (htree : tree ∈ trees) :
    tree.tokens ⊆ tokensOf trees := by
  obtain ⟨before, after, rfl⟩ := List.append_of_mem htree
  rw [tokensOf_append, tokensOf_cons]
  exact fun token htoken => List.mem_append_right _ (List.mem_append_left _ htoken)

/-- What holds the tokens of its children. -/
theorem tokens_subset_of_mem_children {tree child : Tree} (hchild : child ∈ tree.children) :
    child.tokens ⊆ tree.tokens := by
  cases tree with
  | leaf token => cases hchild
  | node kind children =>
    rw [tokens_node]
    exact tokens_subset_tokensOf hchild

theorem tokens_subset_of_content? {kind : NodeKind} {tree content : Tree}
    (hcontent : tree.content? kind = some content) : content.tokens ⊆ tree.tokens := by
  obtain ⟨others, hrole⟩ := exists_mem_of_content? hcontent
  have hinside : content.tokens ⊆ (Tree.node kind (content :: others)).tokens :=
    tokens_subset_of_mem_children List.mem_cons_self
  exact List.Subset.trans hinside (tokens_subset_of_mem_children hrole)

mutual

theorem tokens_subset_of_mem_sites : ∀ (above : List Tree) (tree : Tree) {site : Site},
    site ∈ tree.sites above → site.tree.tokens ⊆ tree.tokens
  | above, .leaf token, site, hsite => by
    rw [sites, List.mem_singleton] at hsite
    rw [hsite]
    exact List.Subset.refl _
  | above, .node kind children, site, hsite => by
    rw [sites, List.mem_cons] at hsite
    obtain rfl | hsite := hsite
    · exact List.Subset.refl _
    · rw [tokens_node]
      exact tokens_subset_of_mem_sitesOf _ children hsite

/-- The tree at a place has no tokens but those of the trees that the place is in. -/
theorem tokens_subset_of_mem_sitesOf : ∀ (above : List Tree) (trees : List Tree) {site : Site},
    site ∈ sitesOf above trees → site.tree.tokens ⊆ tokensOf trees
  | above, [], site, hsite => (List.not_mem_nil hsite).elim
  | above, tree :: rest, site, hsite => by
    rw [tokensOf_cons]
    rw [sitesOf, List.mem_append] at hsite
    obtain hsite | hsite := hsite
    · exact List.subset_append_of_subset_left _ (tokens_subset_of_mem_sites above tree hsite)
    · exact List.subset_append_of_subset_right _ (tokens_subset_of_mem_sitesOf above rest hsite)

end

theorem tokens_subset_of_mem_ownParameters {function parameter : Tree}
    (hparameter : parameter ∈ function.ownParameters) : parameter.tokens ⊆ function.tokens := by
  obtain ⟨hmem, -⟩ := List.mem_filter.mp hparameter
  cases hlist : function.child? .parameters with
  | none =>
    rw [hlist] at hmem
    exact (List.not_mem_nil hmem).elim
  | some list =>
    rw [hlist] at hmem
    exact List.Subset.trans (tokens_subset_of_mem_children hmem)
      (tokens_subset_of_mem_children (List.mem_of_find?_eq_some hlist))

theorem IsPart.tokens_subset {parameter part : Tree} {kind : ParameterKind}
    (hpart : parameter.IsPart kind part) : part.tokens ⊆ parameter.tokens := by
  cases hpart with
  | itself => exact List.Subset.refl _
  | element helement hrest =>
    obtain ⟨elements, hname, hmem, -⟩ := mem_patternElements_iff.mp helement
    have hpattern : part.tokens ⊆ (Tree.node .objectPattern elements).tokens :=
      tokens_subset_of_mem_children hmem
    exact List.Subset.trans hpattern (tokens_subset_of_content? hname)

end Tree

/-- No name begins with a line feed. -/
theorem head?_ne_of_nameLength {text after : List Char} (hlength : 0 < text.length)
    (hname : nameLength 0 (text ++ after) = text.length) :
    (text ++ after).head? ≠ some '\n' := by
  intro hfeed
  obtain ⟨rest, hrest⟩ := List.head?_eq_some_iff.mp hfeed
  have hnone : nameLength 0 ('\n' :: rest) = 0 := rfl
  rw [hrest, hnone] at hname
  omega

/-- An identifier of a file, with the text in front of it. Its letters start where that text ends,
    and reach as far as letters do. -/
structure SourceFile.Reads (file : SourceFile) (before : List Char) (name : Token) : Prop where
  kind : name.kind = .name
  spelled : ∃ after, file.text = before ++ (name.text ++ after) ∧ 0 < name.text.length ∧
    nameLength 0 (name.text ++ after) = name.text.length

/-- A place in a file that is told by line feeds alone. -/
def SourceFile.IsOnLines (file : SourceFile) (place : Position) : Prop :=
  ∃ before after, file.text = before ++ after ∧ place = linePosition before

section Positions

variable {file : SourceFile}

theorem SourceFile.Reads.head? {before : List Char} {name : Token} (hreads : file.Reads before name) :
    ∃ after, file.text = before ++ after ∧ after.head? ≠ some '\n' := by
  obtain ⟨after, htext, hlength, hname⟩ := hreads.spelled
  exact ⟨_, htext, head?_ne_of_nameLength hlength hname⟩

/-- The names that the parts of parameters bind are identifiers of the file. -/
theorem exists_reads_of_isPart {site : Site} (hsite : site ∈ file.functionSites) {parameter : Tree}
    (hparameter : parameter ∈ site.tree.ownParameters) {kind : ParameterKind} {part : Tree}
    (hpart : parameter.IsPart kind part) {name : Token} (hname : part.boundName? = some name) :
    ∃ before, file.Reads before name ∧ name.start = units before := by
  obtain ⟨hcontent, hkind⟩ := Tree.boundName?_eq_some_iff.mp hname
  have htoken : name ∈ part.tokens :=
    Tree.tokens_subset_of_content? hcontent (by rw [Tree.tokens_leaf]; exact List.mem_cons_self)
  have hsites : site.tree.tokens ⊆ file.tokens :=
    Tree.tokens_subset_of_mem_sitesOf [] file.statements (List.mem_of_mem_filter hsite)
  obtain ⟨before, after, htext, hstart, hspelled⟩ := file.exists_split
    (hsites (Tree.tokens_subset_of_mem_ownParameters hparameter (hpart.tokens_subset htoken)))
  exact ⟨before, ⟨hkind, after, htext, hspelled hkind⟩, hstart⟩

theorem positionAt_of_reads {before : List Char} {name : Token} (hreads : file.Reads before name)
    (hstart : name.start = units before) :
    positionAt file.text name.start =
        ⟨units before, 1 + before.count '\n', 1 + units (currentColumns before)⟩ ∧
      (positionAt file.text name.start = linePosition before ↔ '\r' ∉ currentLine before) := by
  obtain ⟨after, htext, -⟩ := hreads.spelled
  rw [hstart, htext]
  exact ⟨positionAt_units before _, positionAt_eq_linePosition_iff⟩

end Positions

/-- Every parameter that is built for a file stands at the identifier that it is named by: at the
    name that it binds, not at the key of the property. Offsets count the code units in front of
    it, lines the line feeds, and columns the code units since the last line feed or carriage
    return. Columns are those of the line, which begins behind the last line feed, exactly where no
    carriage return stands in the line in front of the name, and so everywhere in a text whose
    carriage returns stand in front of line feeds. Places whose columns are those of their lines are
    told apart by line and column as they are by their offset, and come in the same order. Each
    finding is at such a parameter. -/
theorem parameters_stand_at_names (path content : String) (assertionFunctions : List String) :
    let file := SourceFile.parse path content
    let functions := FunctionNode.preorderOf (file.functions assertionFunctions)
    file.text = withoutByteOrderMark content.toList ∧
      (∀ function ∈ functions, ∀ found ∈ function.parameters,
        ∃ site ∈ file.functionSites, ∃ parameter ∈ site.tree.ownParameters, ∃ part name before,
          parameter.IsPart found.kind part ∧ part.boundName? = some name ∧
          file.Reads before name ∧ found.name = name.name ∧
          found.position =
            ⟨units before, 1 + before.count '\n', 1 + units (currentColumns before)⟩ ∧
          (found.position = linePosition before ↔ '\r' ∉ currentLine before)) ∧
      (ReturnsEndLines file.text → ∀ function ∈ functions, ∀ found ∈ function.parameters,
        file.IsOnLines found.position) ∧
      (∀ a b, file.IsOnLines a → file.IsOnLines b →
        (a.offset < b.offset ↔ a.lineKey < b.lineKey) ∧
          (a.offset = b.offset ↔ (a.line, a.column) = (b.line, b.column))) ∧
      ∀ (config : Config) (settled : Option ImportIndex),
        ∀ finding ∈ (checkFile { config with assertionFunctions } ⟨file, settled⟩).findings,
          finding.filePath = path ∧ ∃ function ∈ functions, ∃ found ∈ function.parameters,
            finding.parameter = found.name ∧ finding.position = found.position := by
  intro file functions
  refine ⟨rfl, ?_, ?_, ?_, ?_⟩
  · intro function hfunction found hfound
    obtain ⟨site, hsite, parameter, hparameter, kind, part, name, hpart, hname, rfl⟩ :=
      mem_built_parameters_iff.mp ⟨function, hfunction, hfound⟩
    obtain ⟨before, hreads, hstart⟩ := exists_reads_of_isPart hsite hparameter hpart hname
    obtain ⟨hposition, hlines⟩ := positionAt_of_reads hreads hstart
    exact ⟨site, hsite, parameter, hparameter, part, name, before, hpart, hname, hreads, rfl,
      hposition, hlines⟩
  · intro hreturns function hfunction found hfound
    obtain ⟨site, hsite, parameter, hparameter, kind, part, name, hpart, hname, rfl⟩ :=
      mem_built_parameters_iff.mp ⟨function, hfunction, hfound⟩
    obtain ⟨before, hreads, hstart⟩ := exists_reads_of_isPart hsite hparameter hpart hname
    obtain ⟨after, htext, hafter⟩ := hreads.head?
    rw [htext] at hreturns
    exact ⟨before, after, htext, (positionAt_of_reads hreads hstart).2.mpr
      (not_mem_currentLine_of_returnsEndLines hreturns hafter)⟩
  · rintro a b ⟨before, after, htext, rfl⟩ ⟨other, rest, hother, rfl⟩
    have hbefore : before <+: file.text := ⟨after, htext.symm⟩
    obtain ⟨hlt, heq⟩ := linePosition_order hbefore ⟨rest, hother.symm⟩
    exact ⟨hlt, heq.trans toLex_inj⟩
  · intro config settled finding hfinding
    rw [checkFile] at hfinding
    dsimp only at hfinding
    rw [reportsOf_reports] at hfinding
    obtain ⟨report, hreport, rfl⟩ := List.mem_map.mp hfinding
    obtain ⟨function, hfunction, hreport⟩ := List.mem_flatMap.mp hreport
    obtain ⟨found, hfound, rfl⟩ := List.mem_map.mp hreport
    exact ⟨rfl, function, hfunction, found, List.mem_of_mem_filter hfound, rfl, rfl⟩

/-- A function with a property under another name, after a character that takes two code units. -/
def renamedProperty : String :=
  "// 😀\r\nfunction f(/* 😀 */ \x7bk:\r\n a, b\x7d) \x7b assert(a != null) \x7d"

theorem parameters_stand_at_names_of_renamedProperty :
    let file := SourceFile.parse "/a.ts" renamedProperty
    let functions := FunctionNode.preorderOf (file.functions ["assert"])
    ReturnsEndLines file.text ∧ file.IsOnLines ⟨33, 3, 2⟩ ∧ file.IsOnLines ⟨36, 3, 5⟩ ∧
      (functions.flatMap FunctionNode.parameters).map
          (fun found => (found.name, found.position)) =
        [("a", ⟨33, 3, 2⟩), ("b", ⟨36, 3, 5⟩)] := by
  intro file functions
  have hreturns : ReturnsEndLines file.text := by decide +kernel
  have hfound : (functions.flatMap FunctionNode.parameters).map
      (fun found => (found.name, found.position)) =
        [("a", ⟨33, 3, 2⟩), ("b", ⟨36, 3, 5⟩)] := by decide +kernel
  obtain ⟨-, -, hlines, -, -⟩ :=
    parameters_stand_at_names "/a.ts" renamedProperty ["assert"]
  have hplace : ∀ entry ∈ (functions.flatMap FunctionNode.parameters).map
      (fun found => (found.name, found.position)), file.IsOnLines entry.2 := by
    intro entry hentry
    obtain ⟨found, hmem, rfl⟩ := List.mem_map.mp hentry
    obtain ⟨function, hfunction, hmem⟩ := List.mem_flatMap.mp hmem
    exact hlines hreturns function hfunction found hmem
  rw [hfound] at hplace
  obtain ⟨ha, hrest⟩ := List.forall_mem_cons.mp hplace
  exact ⟨hreturns, ha, hrest _ List.mem_cons_self, hfound⟩

/-- After a carriage return alone, columns start over but the line goes on: neither are the columns
    those of the line, nor do line and column tell the two names apart. -/
theorem columns_start_over_after_loneReturn :
    let file := SourceFile.parse "/a.ts" "function f(\x7b\ra,\rb\x7d)\x7bassert(a!=null)\x7d"
    let places := ((FunctionNode.preorderOf (file.functions ["assert"])).flatMap
      FunctionNode.parameters).map Parameter.position
    places = [⟨13, 1, 1⟩, ⟨16, 1, 1⟩] ∧
      (places.map fun place => linePosition (file.text.take place.offset)) =
        [⟨13, 1, 14⟩, ⟨16, 1, 17⟩] := by
  decide +kernel

end NamedParams.Source
