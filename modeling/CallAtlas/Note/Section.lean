import CallAtlas.CallGraph
import CallAtlas.Documentation.Block
import CallAtlas.Files.FileName
import CallAtlas.Files.Path

/-!
# Sections and notes

How a declaration is written up: what it does, its signature, whom it calls and who calls it. Links point to display
names. A note holds the sections of a file, or that of one declaration.
-/

namespace CallAtlas.Note

/-- Stands for documentation that is missing. -/
def documentationPlaceholder : String := "- _TODO: Plain-English walkthrough._"

/-- Stands where improvements can be written down. -/
def improvementsPlaceholder : String := "- _TODO: Suggested optimizations._"

/-- The heading of the list of callees. -/
def callsHeading : String := "**Calls →**"

/-- The heading of the list of callers. -/
def calledByHeading : String := "**Called-by ←**"

/-- The link to a declaration. -/
def link (u : Callable) : String := "[[" ++ u.name ++ "]]"

/-- The links to some declarations under a heading, in order of the declarations; nothing if there are none. -/
def linksUnder (heading : String) (units : List Callable) : List String :=
  if units.isEmpty then []
  else heading :: ((Callable.sort units).map fun u => "- " ++ link u) ++ [""]

/-- The lines about what a declaration does. -/
def documentationLines (block : Documentation.Block) : List String :=
  if block.isEmpty then [documentationPlaceholder] else block.lines

/-- The signature, or the name if there is none. -/
def signatureOf (u : Callable) : String := if u.signature.isEmpty then u.name else u.signature

/-- The lines of a section before the lists of links. -/
def sectionHead (u : Callable) (block : Documentation.Block) (language : String) : List String :=
  ["", "#### " ++ link u, "##### What it does:"] ++ documentationLines block ++
    ["", "##### Improvements:", improvementsPlaceholder, "", "```" ++ language, signatureOf u, "```", ""]

/-- The lists of links of a section. -/
def sectionLinks (u : Callable) (graph : CallGraph) : List String :=
  linksUnder callsHeading (graph.callees u) ++ linksUnder calledByHeading (graph.callers u)

/-- Lines as a text. -/
def textOf (lines : List String) : String := "\n".intercalate lines ++ "\n"

/-- The section of a declaration. -/
def sectionText (u : Callable) (graph : CallGraph) (block : Documentation.Block) (language : String) : String :=
  textOf (sectionHead u block language ++ sectionLinks u graph)

/-- The lines that open a note of a kind. -/
def openingLines (tag : String) : List String := ["---", "tags:", "  - " ++ tag, "---"]

/-- The name of the note of a source file. -/
def nameForFile (path : String) : String := Files.sanitize (Path.stem (Path.base path) ++ ".md")

/-- The name of the note of a declaration. -/
def nameForUnit (u : Callable) : String := Files.sanitize (u.declaringType ++ "." ++ u.name ++ ".md")

end Note

/-- One note: its file name, its text, and how many declarations it is about. -/
structure Note where
  filename : String
  text : String
  units : Nat := 1
  deriving Repr, DecidableEq, Inhabited

namespace Note

/-- The note of a source file with these sections. -/
def ofFile (path : String) (sections : List String) : Note :=
  { filename := nameForFile path
    text := textOf (openingLines "file" ++ ["# " ++ Path.base path, ""]) ++ String.join sections
    units := sections.length }

/-- The note of a declaration. -/
def ofUnit (u : Callable) (text shownPath : String) : Note :=
  { filename := nameForUnit u
    text :=
      textOf (openingLines "method" ++ ["# " ++ u.declaringDisplay ++ "::" ++ u.name, "**Path**: `" ++ shownPath ++ "`", ""])
        ++ text }

end CallAtlas.Note
