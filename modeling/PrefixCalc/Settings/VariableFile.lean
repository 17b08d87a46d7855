import PrefixCalc.Text.Blank

/-!
# Files of variables

A file that gives values to variables, one on a line: a name, an equals sign and a value, which may
stand in quotes and may then span lines. `export` before the name is allowed; `#` starts a
comment. A line that does not have this form is skipped. In a value, the name of a variable
between `$` and braces stands for its value, or for a default behind `:-`.

## Main definitions

* `VariableFile.bindings`: the names and values of a file, in order.
* `VariableFile.resolve`: the values with variables replaced.
* `VariableFile.read`: both.
-/

namespace PrefixCalc.VariableFile

/-- A name and its value; a name without equals sign has none. -/
structure Binding where
  name : String
  value : Option String
  deriving DecidableEq, Repr

/-! ### Characters -/

/-- Line ends are made the same. -/
def unifyLines : List Char → List Char
  | '\r' :: '\n' :: cs => '\n' :: unifyLines cs
  | '\r' :: cs => '\n' :: unifyLines cs
  | c :: cs => c :: unifyLines cs
  | [] => []

/-- A blank that does not end a line. -/
def isInlineBlank (c : Char) : Bool :=
  Text.isBlank c && c != '\n'

/-- The text without the blanks at its start that do not end a line. -/
def skipInline (cs : List Char) : List Char :=
  cs.dropWhile isInlineBlank

/-- The text behind the end of the current line. -/
def skipLine (cs : List Char) : List Char :=
  (cs.dropWhile (· != '\n')).drop 1

/-! ### Names -/

/-- The text without the word `export` and the blanks behind it. -/
def skipExport (cs : List Char) : List Char :=
  match cs with
  | 'e' :: 'x' :: 'p' :: 'o' :: 'r' :: 't' :: c :: rest =>
    if isInlineBlank c then skipInline rest else cs
  | _ => cs

/-- A character of a name without quotes. -/
def isNameChar (c : Char) : Bool :=
  c != '=' && c != '#' && !Text.isBlank c

/-- A name, with what follows it. Before a comment there is none. -/
def readName : List Char → Option (Option String × List Char)
  | '#' :: cs => some (none, '#' :: cs)
  | '\'' :: cs =>
    let name := cs.takeWhile (· != '\'')
    match cs.dropWhile (· != '\'') with
    | _ :: rest => if name.isEmpty then none else some (some (String.ofList name), rest)
    | [] => none
  | cs =>
    let name := cs.takeWhile isNameChar
    if name.isEmpty then none else some (some (String.ofList name), cs.dropWhile isNameChar)

/-! ### Values -/

/-- The first quote that ends a value: what stands before it and behind it. A quote behind a
backslash does not end the value, unless no other quote does; `fallback` holds the last such
split. The characters before are collected in reverse. -/
def closing (quote : Char) (fallback : Option (List Char × List Char)) :
    (before : List Char) → List Char → Option (List Char × List Char)
  | _, [] => fallback
  | before, c :: cs =>
    if c = quote then
      if before.head? = some '\\' then
        closing quote (some (before.reverse, cs)) (c :: before) cs
      else some (before.reverse, cs)
    else closing quote fallback (c :: before) cs

/-- The character that a backslash and a letter stand for between the given quotes. -/
def unescape? (quote c : Char) : Option Char :=
  if c = '\\' ∨ c = '\'' then some c
  else if quote = '\'' then none
  else
    match c with
    | '"' => some '"'
    | 'a' => some '\x07'
    | 'b' => some '\x08'
    | 'f' => some '\x0c'
    | 'n' => some '\n'
    | 'r' => some '\r'
    | 't' => some '\t'
    | 'v' => some '\x0b'
    | _ => none

/-- A value between quotes with its escapes replaced. -/
def unescaped (quote : Char) : List Char → List Char
  | '\\' :: c :: cs =>
    match unescape? quote c with
    | some d => d :: unescaped quote cs
    | none => '\\' :: unescaped quote (c :: cs)
  | c :: cs => c :: unescaped quote cs
  | [] => []
termination_by cs => cs.length

/-- A line without a comment, which starts at a `#` behind a blank. -/
def beforeComment : List Char → List Char
  | c :: '#' :: cs => if Text.isBlank c then [] else c :: beforeComment ('#' :: cs)
  | c :: cs => c :: beforeComment cs
  | [] => []

/-- A value without quotes: the rest of the line behind the equals sign, without a comment and
blanks at its ends. A comment may stand right behind the blanks that follow the equals sign. -/
def plainValue (line : List Char) : List Char :=
  Text.trimEnds Text.isBlank (beforeComment line)

/-- A value between quotes, with what follows it. -/
def quotedValue (quote : Char) (cs : List Char) : Option (List Char × List Char) :=
  (closing quote none [] cs).map fun (value, rest) => (unescaped quote value, rest)

/-- The value behind an equals sign, with what follows it. -/
def readValue (cs : List Char) : Option (List Char × List Char) :=
  match skipInline cs with
  | '\'' :: inner => quotedValue '\'' inner
  | '"' :: inner => quotedValue '"' inner
  | _ => some (plainValue (cs.takeWhile (· != '\n')), cs.dropWhile (· != '\n'))

/-! ### Lines -/

/-- The text behind the end of a line on which nothing but a comment is left. -/
def finishLine (cs : List Char) : Option (List Char) :=
  let cs := skipInline cs
  let cs := if cs.head? = some '#' then cs.dropWhile (· != '\n') else cs
  match cs with
  | [] => some []
  | '\n' :: rest => some rest
  | _ => none

/-- The value behind an equals sign, if there is one, with what follows. -/
def readAssigned : List Char → Option (Option String × List Char)
  | '=' :: cs => (readValue cs).map fun (v, rest) => (some (String.ofList v), rest)
  | cs => some (none, cs)

/-- Where in a line reading stopped, and the binding of the line when it has the right form. -/
def readLine (cs : List Char) : Option Binding × List Char :=
  let start := skipExport cs
  match readName start with
  | none => (none, skipLine start)
  | some (name, rest) =>
    let rest := skipInline rest
    match readAssigned rest with
    | none => (none, skipLine rest)
    | some (value, rest) =>
      match finishLine rest with
      | none => (none, skipLine rest)
      | some rest => (name.map fun name => { name, value }, rest)

/-- The bindings of a text. Each line takes at least one character, so that as many steps as there
are characters suffice. -/
def readLines : (steps : Nat) → List Char → List Binding
  | 0, _ => []
  | steps + 1, cs =>
    match cs.dropWhile Text.isBlank with
    | [] => []
    | cs =>
      let (binding, rest) := readLine cs
      binding.toList ++ readLines steps rest

/-- The bindings of a file, in order. -/
def bindings (file : String) : List Binding :=
  let cs := unifyLines file.toList
  readLines cs.length cs

/-! ### Variables -/

/-- The value of a variable, of several the last. -/
abbrev Scope := String → Option String

/-- A variable between `$` and braces, behind the opening brace: its value, with what follows. -/
def readVariable (scope : Scope) (cs : List Char) : Option (List Char × List Char) :=
  let name := cs.takeWhile fun c => c != '}' && c != ':'
  let value := scope (String.ofList name)
  match cs.dropWhile fun c => c != '}' && c != ':' with
  | '}' :: rest => some ((value.getD "").toList, rest)
  | ':' :: '-' :: cs =>
    let fallback := cs.takeWhile (· != '}')
    match cs.dropWhile (· != '}') with
    | _ :: rest => some (((value.map String.toList).getD fallback), rest)
    | [] => none
  | _ => none

/-- A value with its variables replaced, in as many steps as it has characters. -/
def expand (scope : Scope) : (steps : Nat) → List Char → List Char
  | 0, _ => []
  | _, [] => []
  | steps + 1, c :: cs =>
    match c, cs with
    | '$', '{' :: inner =>
      match readVariable scope inner with
      | some (value, rest) => value ++ expand scope steps rest
      | none => c :: expand scope steps cs
    | _, _ => c :: expand scope steps cs

/-- The bindings with one replaced where its name is, or added at the end. -/
def put (bs : List Binding) (b : Binding) : List Binding :=
  if bs.any (·.name == b.name) then bs.map fun x => if x.name == b.name then b else x
  else bs ++ [b]

/-- The scope of a value: the bindings before it, and then the environment. A name without value
is bound to nothing. -/
def scopeOf (environment : Scope) (done : List Binding) : Scope := fun name =>
  match done.find? (·.name == name) with
  | some b => some (b.value.getD "")
  | none => environment name

/-- A binding with the variables in its value replaced. -/
def Binding.expand (scope : Scope) (b : Binding) : Binding :=
  ⟨b.name, b.value.map fun v => String.ofList (VariableFile.expand scope v.toList.length v.toList)⟩

/-- The bindings with the variables in their values replaced; of a name bound twice, the last
value counts. -/
def resolve (environment : Scope) (bs : List Binding) : List Binding :=
  bs.foldl (fun done b => put done (b.expand (scopeOf environment done))) []

/-- The bindings of a file with variables replaced. -/
def read (environment : Scope) (file : String) : List Binding :=
  resolve environment (bindings file)

end PrefixCalc.VariableFile
