import EditImpact.Inventory.Lines
import EditImpact.Inventory.Trees

/-!
The inventory of a text: from its syntax tree where its language has a grammar that is at hand, else
line by line.
-/

namespace EditImpact.Inventory

open Parsing

/-- The syntax tree of a text; there is none where the text has errors in it. -/
abbrev Parser := List Char → Option Tree

def treeDeclarations (language : Language) (source : List Char) (tree : Tree) : List Declaration :=
  if language == .python then pythonTree source false tree
  else scriptTree (some language) source tree

/-- A language together with its parser. -/
def parserOf (parser? : Language.Grammar → Option Parser) (language : Option Language) :
    Option (Language × Parser) := do
  let known ← language
  let grammar ← known.grammar
  let parse ← parser? grammar
  return (known, parse)

/-- The inventory of a text. Some grammars may have no parser. -/
def collectWith (parser? : Language.Grammar → Option Parser) (text : List Char)
    (language : Option Language) : Inventory :=
  match parserOf parser? language with
  | none =>
    { declarations := lineDeclarations language text, status := .success, language := language
      method := .lines }
  | some (known, parse) =>
    match parse text with
    | none => failed language "syntax errors in parse tree"
    | some tree =>
      { declarations := treeDeclarations known text tree, status := .success, language := language
        method := .trees }

end EditImpact.Inventory
