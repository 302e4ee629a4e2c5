import ObjcDecl.GeneratedFiles

/-!
# Reports

What the `generate` command says of a run.
-/

namespace ObjcDecl.Report

/-- Lines of a report. -/
def text (lines : List String) : String := String.join (lines.map (· ++ "\n"))

/-- A generated file and whether it had to be changed. -/
abbrev Written := GeneratedFile × Bool

/-- The line of a written file. -/
def writtenLine (w : Written) : String := (if w.2 then "  + " else "  = ") ++ w.1.path

/-- The report of a run that wrote files into a directory. -/
def ofWritten (u : SourceUnit) (directory : String) (ws : List Written) : String :=
  text (["Source: " ++ u.sourcePath, "Types (" ++ toString u.types.length ++ "):"] ++
    u.types.map (fun d => "  - " ++ d.type.name) ++ ["", "Generated: " ++ directory] ++
    ws.map writtenLine)

/-- A line with a label across the page. -/
def divider (label : String) : String := "── " ++ label ++ " ──"

/-- The report of a run that wrote nothing, with the files that it would
have written. -/
def ofPreview (fs : List GeneratedFile) : String :=
  text (fs.flatMap (fun f => [divider f.path, f.content]) ++
    [divider "Summary", toString fs.length ++ " files would be generated"])

end ObjcDecl.Report
