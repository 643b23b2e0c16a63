/-!
# Command line options

The words of a command line are split into options and arguments.  An option has a long name and is
a switch or takes a value, either behind an equals sign or as the next word.  Two hyphens end the
options.

* `scanOptions` : the split, which fails on a word that looks like an option and is none
-/

namespace SipBench.CommandLine

/-- An option that a command knows. -/
structure OptionSpec where
  name : String
  takesValue : Bool

/-- An option as it was given; a switch has no value. -/
structure GivenOption where
  name : String
  value : Option String := none

/-- The name and the value of a word such as `--name=value`. -/
def splitWord (word : String) : String × Option String :=
  let cs := word.toList
  match cs.dropWhile (· ≠ '=') with
  | [] => (word, none)
  | _ :: value => (String.ofList (cs.takeWhile (· ≠ '=')), some (String.ofList value))

/-- Whether a word looks like an option. -/
def looksLikeOption (word : String) : Bool :=
  match word.toList with
  | '-' :: _ :: _ => true
  | _ => false

/-- The options and the other words of a command line, in their order; none if an option is unknown,
lacks its value or has one it does not take.  Unless `interspersed`, the first word that is no
option ends the options. -/
def scanOptions (known : List OptionSpec) (interspersed : Bool) :
    List String → Option (List GivenOption × List String)
  | [] => some ([], [])
  | word :: rest =>
    if word == "--" then some ([], rest)
    else if !looksLikeOption word then
      if interspersed then
        (scanOptions known interspersed rest).map fun (given, words) => (given, word :: words)
      else some ([], word :: rest)
    else
      let (name, value) := splitWord word
      match known.find? (·.name == name), value with
      | none, _ => none
      | some ⟨_, false⟩, some _ => none
      | some ⟨_, false⟩, none =>
        (scanOptions known interspersed rest).map fun (given, words) =>
          (⟨name, none⟩ :: given, words)
      | some ⟨_, true⟩, some value =>
        (scanOptions known interspersed rest).map fun (given, words) =>
          (⟨name, some value⟩ :: given, words)
      | some ⟨_, true⟩, none =>
        match rest with
        | [] => none
        | value :: rest =>
          (scanOptions known interspersed rest).map fun (given, words) =>
            (⟨name, some value⟩ :: given, words)

/-- The value of the last option with a name. -/
def valueOf? (given : List GivenOption) (name : String) : Option String :=
  (given.reverse.find? (·.name == name)).bind (·.value)

/-- Whether an option was given. -/
def isGiven (given : List GivenOption) (name : String) : Bool := given.any (·.name == name)

end SipBench.CommandLine
