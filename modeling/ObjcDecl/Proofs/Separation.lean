import ObjcDecl.Proofs.Visit.Files

/-!
# Types do not see each other

One visitor prints all types of a unit on one writer, and both remember
something from one type to the next: the visitor a stage and whether it is
in an inner type, the writer a level of indentation and whether a region
is open. None of it shows in a file. The text of a file is an opening,
the texts that its types have alone, and an ending; and a file is refused
exactly when one of its types alone is (`files_separable`).

The step is `printsAnyway_type`: from whatever state, a type prints the
block that it always prints, and leaves the level and the region as they
were. By `printsAnyway_all` a row of types prints these blocks in a row.
-/

namespace ObjcDecl

/-- Whether the line is an instruction to the compiler about its warnings. -/
def Line.isPragma : Line → Bool
  | .flush t => "#pragma".toList.isPrefixOf t.toList
  | .nested _ _ => false

theorem Line.isPragma_append {a : String}
    (other : ∀ rest, "#pragma".toList.isPrefixOf (a.toList ++ rest) = false) (x : String) :
    (Line.flush (a ++ x)).isPragma = false := by
  rw [isPragma, String.toList_append, other]

/-- A file is made of the texts of its types: it has a text where all of
them have one, and is refused where one of them is. Around the types,
warnings are switched off and on again once, if they are at all. -/
structure Separable (o : Options) (types : List TypeDecl)
    (alone : TypeDecl → Except Fault String) (opening ending : Block)
    (file : Except Fault String) : Prop where
  /-- The texts stand in the order of the types, with nothing between them. -/
  text : ∀ ts, List.Forall₂ (fun d t => alone d = .ok t) types ts →
    file = .ok (SourceUnit.textOf opening ++ String.join ts ++ SourceUnit.textOf ending)
  refused : (∃ f, file = .error f) ↔ ∃ d ∈ types, ∃ f, alone d = .error f
  opened : opening.filter Line.isPragma =
    if o.emitDeprecated then
      [.flush "#pragma clang diagnostic push",
        .flush "#pragma GCC diagnostic ignored \"-Wdeprecated-declarations\""]
    else []
  closed : ending.filter Line.isPragma =
    if o.emitDeprecated then [.flush "#pragma clang diagnostic pop"] else []

namespace SourceUnit

/-- The lines of a region around what is printed. -/
def regionOpening (o : Options) : Block := if o.emitDeprecated then DeprecationRegion.opening else []

/-- The line that ends it. -/
def regionEnding (o : Options) : Block := if o.emitDeprecated then DeprecationRegion.closing else []

def headerOpening (u : SourceUnit) (o : Options) : Block :=
  let guardName := Header.guardName (u.fileName.getD "")
  u.preamble ++
    [.flush ("#ifndef " ++ guardName), .flush ("#define " ++ guardName), .blank,
      .flush "#include \"J2ObjC_header.h\""] ++ regionOpening o

def headerEnding (u : SourceUnit) (o : Options) : Block :=
  regionEnding o ++ [.blank, .flush ("#endif // " ++ Header.guardName (u.fileName.getD ""))]

def implementationOpening (u : SourceUnit) (o : Options) : Block :=
  u.preamble ++
    [.flush ("#include \"" ++ u.fileName.getD "" ++ ".h\""),
      .flush "#include \"J2ObjC_source.h\""] ++ regionOpening o

def implementationEnding (o : Options) : Block := regionEnding o

theorem filter_regionOpening (o : Options) :
    (regionOpening o).filter Line.isPragma =
      if o.emitDeprecated then
        [.flush "#pragma clang diagnostic push",
          .flush "#pragma GCC diagnostic ignored \"-Wdeprecated-declarations\""]
      else [] := by
  unfold regionOpening
  cases o.emitDeprecated <;> rfl

theorem filter_regionEnding (o : Options) :
    (regionEnding o).filter Line.isPragma =
      if o.emitDeprecated then [.flush "#pragma clang diagnostic pop"] else [] := by
  unfold regionEnding
  cases o.emitDeprecated <;> rfl

/-- The opening comment names the source file and instructs nobody. -/
theorem filter_preamble (u : SourceUnit) : u.preamble.filter Line.isPragma = [] := by
  have source := Line.isPragma_append (a := "//  source: ") (fun _ => rfl) u.sourcePath
  simp only [preamble, List.filter_cons, source]
  rfl

theorem textOf_append (a b : Block) : textOf (a ++ b) = textOf a ++ textOf b :=
  Block.render_append _ _ a b

theorem around_eq (o : Options) (b : Block) :
    DeprecationRegion.around o b = regionOpening o ++ b ++ regionEnding o := by
  unfold DeprecationRegion.around regionOpening regionEnding
  cases o.emitDeprecated <;> simp

end SourceUnit

open SourceUnit

/-- Blocks in sequence have their texts in a row. -/
theorem sequence_of_texts {types : List TypeDecl} {e : TypeDecl → Emission} {ts : List String}
    (h : List.Forall₂ (fun d t => (e d).map textOf = .ok t) types ts) :
    (Block.sequence (types.map e)).map textOf = .ok (String.join ts) := by
  induction h with
  | nil => rfl
  | @cons d t types ts hd _ ih =>
    cases he : e d with
    | error f => simp [he, Except.map] at hd
    | ok b =>
      cases hes : Block.sequence (types.map e) with
      | error f => simp [hes, Except.map] at ih
      | ok bs =>
        simp only [he, hes, Except.map, Except.ok.injEq] at hd ih
        simp [Block.sequence_cons, he, hes, Except.map, textOf_append, hd, ih]

/-- A sequence is refused exactly when one of its blocks is. -/
theorem sequence_eq_error_iff {types : List TypeDecl} {e : TypeDecl → Emission} :
    (∃ f, Block.sequence (types.map e) = .error f) ↔ ∃ d ∈ types, ∃ f, e d = .error f := by
  induction types with
  | nil => simp [Block.sequence]
  | cons d types ih =>
    cases he : e d with
    | error f => simp [Block.sequence_cons, he]
    | ok b =>
      cases hes : Block.sequence (types.map e) <;> simp_all [Block.sequence_cons]

theorem separable_of_blocks {o : Options} {types : List TypeDecl} {e : TypeDecl → Emission}
    {alone : TypeDecl → Except Fault String} {opening ending : Block}
    {file : Except Fault String} (each : ∀ d, alone d = (e d).map textOf)
    (whole : file = (Block.sequence (types.map e)).map fun b => textOf (opening ++ b ++ ending))
    (opened : opening.filter Line.isPragma = (regionOpening o).filter Line.isPragma)
    (closed : ending.filter Line.isPragma = (regionEnding o).filter Line.isPragma) :
    Separable o types alone opening ending file where
  text ts h := by
    simp only [each] at h
    have texts := sequence_of_texts h
    cases hb : Block.sequence (types.map e) with
    | error f => simp [hb, Except.map] at texts
    | ok b =>
      simp only [hb, Except.map, Except.ok.injEq] at texts
      simp [whole, hb, Except.map, textOf_append, texts, String.append_assoc]
  refused := by
    have refused (x : Emission) (g : Block → String) :
        (∃ f, x.map g = .error f) ↔ ∃ f, x = .error f := by cases x <;> simp [Except.map]
    simp only [whole, each, refused]
    exact sequence_eq_error_iff
  opened := by rw [opened, filter_regionOpening]
  closed := by rw [closed, filter_regionEnding]

namespace SourceUnit

variable (u : SourceUnit) (o : Options)

theorem header_eq :
    u.header o = (Block.sequence (u.types.map (Header.ofType (context o)))).map fun b =>
      textOf (u.headerOpening o ++ b ++ u.headerEnding o) := by
  unfold header Header.file
  cases Block.sequence (u.types.map (Header.ofType (context o))) with
  | error f => rfl
  | ok b => simp [Except.map, around_eq, context, headerOpening, headerEnding]

theorem implementation_eq :
    u.implementation o =
      (Block.sequence (u.types.map (Implementation.ofType (context o)))).map fun b =>
        textOf (u.implementationOpening o ++ b ++ implementationEnding o) := by
  unfold implementation Implementation.file
  cases Block.sequence (u.types.map (Implementation.ofType (context o))) with
  | error f => rfl
  | ok b =>
    simp [Except.map, around_eq, context, implementationOpening, implementationEnding]

theorem filter_headerOpening :
    (u.headerOpening o).filter Line.isPragma = (regionOpening o).filter Line.isPragma := by
  have ifndef (x : String) := Line.isPragma_append (a := "#ifndef ") (fun _ => rfl) x
  have define (x : String) := Line.isPragma_append (a := "#define ") (fun _ => rfl) x
  have included : (Line.flush "#include \"J2ObjC_header.h\"").isPragma = false := rfl
  have blank : Line.blank.isPragma = false := rfl
  simp [headerOpening, filter_preamble, ifndef, define, included, blank]

theorem filter_headerEnding :
    (u.headerEnding o).filter Line.isPragma = (regionEnding o).filter Line.isPragma := by
  have guard (x : String) := Line.isPragma_append (a := "#endif // ") (fun _ => rfl) x
  have blank : Line.blank.isPragma = false := rfl
  simp [headerEnding, guard, blank]

theorem filter_implementationOpening :
    (u.implementationOpening o).filter Line.isPragma = (regionOpening o).filter Line.isPragma := by
  have header (x : String) := Line.isPragma_append (a := "#include \"") (fun _ => rfl) x
  have source : (Line.flush "#include \"J2ObjC_source.h\"").isPragma = false := rfl
  simp [implementationOpening, filter_preamble, header, source, String.append_assoc]

end SourceUnit

/-- The header and the implementation of a unit, which one visitor prints
on one writer, are made of the texts that the types have alone. -/
theorem files_separable (u : SourceUnit) (o : Options) :
    Separable o u.types (TypeDecl.printedHeader · o) (u.headerOpening o) (u.headerEnding o)
        (u.printedHeader o) ∧
      Separable o u.types (TypeDecl.printedImplementation · o) (u.implementationOpening o)
        (implementationEnding o) (u.printedImplementation o) ∧
      u.printedHeader o = u.header o ∧ u.printedImplementation o = u.implementation o := by
  have header := separable_of_blocks (fun d => d.printedHeader_eq o) (u.header_eq o)
    (u.filter_headerOpening o) (u.filter_headerEnding o)
  have implementation := separable_of_blocks (fun d => d.printedImplementation_eq o)
    (u.implementation_eq o) (u.filter_implementationOpening o) rfl
  rw [u.printedHeader_eq, u.printedImplementation_eq]
  exact ⟨header, implementation, rfl, rfl⟩

end ObjcDecl
