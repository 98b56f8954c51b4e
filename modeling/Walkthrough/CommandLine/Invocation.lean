import Walkthrough.Text.Digit

/-!
What the words of a command line ask for. Options may be shortened as long as it is clear which one
is meant; after two hyphens every word is an operand. Words that make no sense are refused, unless a
word before them asks for help.
-/

namespace Walkthrough

/-- The pages of help. -/
inductive HelpPage
  | program
  | run
  | validate
  deriving DecidableEq, Repr

def HelpPage.text : HelpPage → String
  | .program =>
    "usage: smartui [-h] [--log-level LOG_LEVEL] \x7brun,validate\x7d ...\n\n" ++
    "Run field-name driven UI test scenarios\n\n" ++
    "positional arguments:\n" ++
    "  \x7brun,validate\x7d\n" ++
    "    run                 run every scenario file in a directory\n" ++
    "    validate            parse scenario files and print a summary\n\n" ++
    "options:\n" ++
    "  -h, --help            show this help message and exit\n" ++
    "  --log-level LOG_LEVEL\n" ++
    "                        override LOG_LEVEL\n"
  | .run =>
    "usage: smartui run [-h] [directory]\n\npositional arguments:\n  directory\n\n" ++
    "options:\n  -h, --help  show this help message and exit\n"
  | .validate =>
    "usage: smartui validate [-h] files [files ...]\n\npositional arguments:\n  files\n\n" ++
    "options:\n  -h, --help  show this help message and exit\n"

/-- What is to be done. -/
inductive Command
  | run (directory : Option String)
  | validate (files : List String)
  deriving DecidableEq, Repr

inductive Invocation
  | help (page : HelpPage)
  /-- The words make no sense. -/
  | refused
  /-- A command, if there is one, with the level of the log. -/
  | command (level : Option String) (command : Option Command)
  deriving DecidableEq, Repr

/-- A word of the command line as it is understood. -/
inductive Word
  | operand
  | help
  /-- The option for the level of the log; its value may be part of the word. -/
  | level (value : Option String)
  /-- An option that is not known. -/
  | unknown
  /-- An option with a value that it does not take. -/
  | flawed
  /-- A shortened option that could be either. -/
  | ambiguous
  deriving DecidableEq, Repr

namespace Word

open Text

/-- Whether digits are all of a text, at least one of them. -/
def isDigits (cs : List Char) : Bool := !cs.isEmpty && cs.all (fun c => (digitValue c).isSome)

/-- A number after a minus sign, with or without a fraction; a line feed may end it. -/
def isNegativeNumber (cs : List Char) : Bool :=
  match cs with
  | '-' :: rest =>
    let body := if rest.getLast? == some '\n' then rest.dropLast else rest
    let (whole, fraction) := (body.takeWhile (· != '.'), body.dropWhile (· != '.'))
    match fraction with
    | [] => isDigits whole
    | _ :: digits => (whole.isEmpty || isDigits whole) && isDigits digits
  | _ => false

/-- The short option for help, given the text after it: the option may be repeated, also behind an
equals sign, and takes nothing else. -/
def shortHelp (tail : List Char) : Word :=
  let repeated := match tail with
    | '=' :: rest => !rest.isEmpty && rest.all (· == 'h')
    | rest => rest.all (· == 'h')
  if repeated then .help else .flawed

/-- A word that begins like an option, but is none. -/
def neither (cs : List Char) : Word :=
  if isNegativeNumber cs || cs.contains ' ' then .operand else .unknown

/-- An option with two hyphens, given the text after them. -/
def long (hasLevel : Bool) (cs : List Char) : Word :=
  let name := cs.takeWhile (· != '=')
  let value := match cs.drop name.length with
    | [] => none
    | _ :: value => some (String.ofList value)
  let isHelp := name.isPrefixOf "help".toList
  let isLevel := hasLevel && name.isPrefixOf "log-level".toList
  if isHelp && isLevel then .ambiguous
  else if isHelp then if value.isSome then .flawed else .help
  else if isLevel then .level value
  else neither ('-' :: '-' :: cs)

/-- A word before the two hyphens that end the options. -/
def ofText (hasLevel : Bool) (word : String) : Word :=
  match word.toList with
  | ['-'] => .operand
  | '-' :: 'h' :: tail => shortHelp tail
  | '-' :: '-' :: cs => long hasLevel cs
  | '-' :: cs => neither ('-' :: cs)
  | _ => .operand

end Word

namespace Invocation

/-- The mark after which every word is an operand. -/
def mark : String := "--"

/-- The words before the mark. -/
def beforeMark (words : List String) : List String := words.takeWhile (· != mark)

/-- The operands of a command: the words without options, the first mark left out. -/
def operands (words : List String) : List String :=
  ((beforeMark words).filter (fun w => Word.ofText false w = .operand)) ++
    (words.dropWhile (· != mark)).drop 1

/-- The words of a command up to the first that decides: it asks for help, or is flawed. -/
def decisive (words : List String) : Option Word :=
  ((beforeMark words).map (Word.ofText false)).find? (fun w => w = .help || w = .flawed)

/-- A command by the words after its name; an option that is not known refuses it. -/
def ofWords (page : HelpPage) (words : List String) (finish : List String → Option Command) :
    Invocation :=
  match decisive words with
  | some .help => .help page
  | some _ => .refused
  | none =>
    if ((beforeMark words).map (Word.ofText false)).contains .unknown then .refused
    else match finish (operands words) with
      | none => .refused
      | some c => .command none (some c)

/-- A directory, if one is named; there cannot be two. -/
def runOf : List String → Option Command
  | [] => some (.run none)
  | [directory] => some (.run (some directory))
  | _ => none

/-- Files, at least one. -/
def validateOf (files : List String) : Option Command :=
  if files.isEmpty then none else some (.validate files)

/-- The command of a name. -/
def named (name : String) (words : List String) : Invocation :=
  if name = "run" then ofWords .run words runOf
  else if name = "validate" then ofWords .validate words validateOf
  else .refused

/-- The invocation with the level of the log; words that were not known before it refuse it. -/
def complete (level : Option String) (strange : Bool) : Invocation → Invocation
  | .command _ c => if strange then .refused else .command level c
  | other => other

/-- What words ask for, given the level so far and whether there was an option that is not known. -/
def scan (level : Option String) (strange : Bool) : List String → Invocation
  | [] => complete level strange (.command none none)
  | w :: rest =>
    if w = mark then .refused
    else match Word.ofText true w with
      | .operand => complete level strange (named w rest)
      | .help => .help .program
      | .level (some value) => scan (some value) strange rest
      | .level none =>
        match rest with
        | value :: rest =>
          if value ≠ mark && Word.ofText true value = .operand then scan (some value) strange rest
          else .refused
        | [] => .refused
      | .unknown => scan level true rest
      | .flawed | .ambiguous => .refused

/-- What the words of a command line ask for. -/
def ofArguments (words : List String) : Invocation :=
  if ((beforeMark words).map (Word.ofText true)).contains .ambiguous then .refused
  else scan none false words

end Invocation

end Walkthrough
