import HomePairing.Entropy
import HomePairing.Text.Quoted

/-!
# Setup codes and configuration

A setup code is eight digits written `XXX-XX-XXX`; the written form, dashes
included, is the password of Pair-Setup. Twelve codes are too easy to guess and
are never used: reading refuses them and generation skips them.
-/

namespace HomePairing

inductive ConfigError where
  | malformedSetupCode
  | trivialSetupCode
  | invalidValue (field reason : String)
deriving DecidableEq, Repr

def ConfigError.name : ConfigError → String
  | malformedSetupCode => "MalformedSetupCode"
  | trivialSetupCode => "TrivialSetupCode"
  | invalidValue .. => "InvalidValue"

def ConfigError.message : ConfigError → String
  | malformedSetupCode => "setup code must be formatted XXX-XX-XXX"
  | trivialSetupCode => "setup code is too easy to guess"
  | invalidValue field reason => "invalid " ++ field ++ ": " ++ reason

/-- The code that a controller must know to pair. -/
structure SetupCode where
  text : String
deriving DecidableEq, Repr

namespace SetupCode

/-- The codes that are too easy to guess. -/
def trivialCodes : List String :=
  ["000-00-000", "111-11-111", "222-22-222", "333-33-333", "444-44-444", "555-55-555",
   "666-66-666", "777-77-777", "888-88-888", "999-99-999", "123-45-678", "876-54-321"]

def isWellFormed (text : String) : Bool :=
  match text.toList with
  | [a, b, c, '-', d, e, '-', f, g, h] => [a, b, c, d, e, f, g, h].all Char.isDigit
  | _ => false

def parse (text : String) : Except ConfigError SetupCode :=
  if !isWellFormed text then .error .malformedSetupCode
  else if trivialCodes.contains text then .error .trivialSetupCode
  else .ok ⟨text⟩

/-- Digit `place` of a number, counted from the right, as a character. -/
def digit (n place : Nat) : Char :=
  Nat.digitChar (n / Nat.pow 10 place % 10)

/-- The written form of a number below a hundred million: eight digits, zeros
in front. -/
def textOfNumber (n : Nat) : String :=
  String.ofList
    [digit n 7, digit n 6, digit n 5, '-', digit n 4, digit n 3, '-', digit n 2, digit n 1,
      digit n 0]

/-- How many codes there are, trivial ones included. -/
def count : Nat := 100000000

/-- The number below a hundred million that a random word stands for. The words
at the end of the range are refused, so that every number stands behind equally
many of them. -/
def sample? (word : Nat) : Option Nat :=
  let scaled := count * word
  if scaled % UInt32.size ≤ 3199999999 then some (scaled / UInt32.size) else none

/-- The code that a random word stands for, if the word is not refused and the
code is not trivial. -/
def ofWord? (word : Nat) : Option SetupCode :=
  match sample? word with
  | none => none
  | some n => if trivialCodes.contains (textOfNumber n) then none else some ⟨textOfNumber n⟩

/-- A random code. Three words in four stand for one, so it takes a strange stream never to
come to one. -/
def generate? (entropy : Entropy) : Option (SetupCode × Entropy) :=
  entropy.drawUntil? ofWord?

def describe (_ : SetupCode) : String :=
  "SetupCode(<redacted>)"

end SetupCode

structure Config where
  name : String
  setupCode : SetupCode
  /-- How many proofs may fail before Pair-Setup is locked. -/
  maxSetupAttempts : UInt32
  /-- How many controllers can be paired at a time. -/
  maxPairings : Nat
deriving DecidableEq, Repr

namespace Config

def defaultName : String := "HAP Accessory"

def defaultMaxSetupAttempts : UInt32 := 100

def defaultMaxPairings : Nat := 16

def generate? (name : String) (entropy : Entropy) : Option (Config × Entropy) :=
  (SetupCode.generate? entropy).map fun (code, entropy) =>
    ({ name := name
       setupCode := code
       maxSetupAttempts := defaultMaxSetupAttempts
       maxPairings := defaultMaxPairings }, entropy)

/-- What the owner of an accessory has decided; the rest is left to the defaults. -/
structure Options where
  name : Option String
  setupCode : Option String
  maxSetupAttempts : Option UInt32
  maxPairings : Option Nat

/-- The configuration with the owner's decisions in it. A setup code that cannot be
used is refused. -/
def withOptions (config : Config) (options : Options) : Except ConfigError Config :=
  let config :=
    { config with
      maxSetupAttempts := options.maxSetupAttempts.getD config.maxSetupAttempts
      maxPairings := options.maxPairings.getD config.maxPairings }
  match options.setupCode with
  | none => .ok config
  | some text => (SetupCode.parse text).map fun setupCode => { config with setupCode }

/-- The configuration that the owner's decisions come to. A random setup code is
drawn even if another one takes its place. -/
def ofOptions? (options : Options) (entropy : Entropy) :
    Option (Except ConfigError Config × Entropy) :=
  (generate? (options.name.getD defaultName) entropy).map fun (config, entropy) =>
    (config.withOptions options, entropy)

def validate (config : Config) : Except ConfigError Unit :=
  if config.name.isEmpty then
    .error (.invalidValue "name" "must not be empty")
  else if config.maxSetupAttempts = 0 then
    .error (.invalidValue "max_setup_attempts" "must be at least 1")
  else if config.maxPairings = 0 then
    .error (.invalidValue "max_pairings" "must be at least 1")
  else
    .ok ()

def describe (config : Config) : String :=
  "AccessoryConfig \x7b name: " ++ Text.quote config.name ++
    ", setup_code: " ++ config.setupCode.describe ++
    ", max_setup_attempts: " ++ toString config.maxSetupAttempts.toNat ++
    ", max_pairings: " ++ toString config.maxPairings ++ " \x7d"

end Config

end HomePairing
