import GestureScript.Console.Argument.Tree
import GestureScript.Numeral

/-!
# Patterns of tokens

A grammar gives each of its rules some alternatives, of which the first that fits is
taken. A pattern may also stop the search with a complaint. Some patterns take part
only in a second search, which looks for what to complain of.
-/

set_option autoImplicit false

namespace GestureScript.Console.Argument

/-- What is asked for at a place. `ρ` is the type of the rules. -/
inductive Pattern (ρ : Type) where
  | sign (s : String)
  /-- A sign that becomes part of the tree. -/
  | kept (s : String)
  | name
  | softKeyword
  | number
  | quotation
  | lineEnd
  | textEnd
  | rule (r : ρ)
  | all (ps : List (Pattern ρ))
  | any (ps : List (Pattern ρ))
  | optional (p : Pattern ρ)
  | many (p : Pattern ρ)
  /-- Looked at, but not taken. -/
  | ahead (p : Pattern ρ)
  | notAhead (p : Pattern ρ)
  /-- Only when complaints are looked for. -/
  | explained (p : Pattern ρ)
  /-- Without looking for complaints. -/
  | plainly (p : Pattern ρ)
  /-- Nothing, behind a token that is in brackets. -/
  | bracketed

/-- What becomes of the trees that an alternative has found. -/
inductive Built where
  | trees (ts : List Tree)
  /-- The rule does not fit after all. -/
  | nothing
  | complaint (c : Complaint)

structure Alternative (ρ : Type) where
  pattern : Pattern ρ
  build : List Tree → Built

structure Grammar (ρ : Type) where
  alternatives : ρ → List (Alternative ρ)
  /-- Is what a rule finds at a place remembered? -/
  remembers : ρ → Bool

/-- Why a search stops. -/
inductive Stop where
  /-- The next token cannot be read. -/
  | atBreak (b : Break)
  | complaint (c : Complaint)
  deriving DecidableEq, Repr

inductive Found where
  /-- Trees, and the place behind them. -/
  | found (ts : List Tree) (place : Nat)
  | missing
  | stopped (s : Stop)

/-- What was found by rules at places. -/
abbrev Memory (ρ : Type) := Array (List (ρ × Found))

/-- What a search goes through. -/
structure Search (ρ : Type) where
  grammar : Grammar ρ
  tokens : Array Token
  broken : Option Break

namespace Search

variable {ρ : Type} [DecidableEq ρ]

/-- Take the token at a place, if it is one that is asked for. -/
def take (s : Search ρ) (place : Nat) (keep : Bool) (p : Token → Bool) : Found :=
  match s.tokens[place]? with
  | some t =>
    if p t then .found (if keep then [.leaf t] else []) (place + 1) else .missing
  | none => s.broken.elim .missing fun b => .stopped (.atBreak b)

/-- The digits of a whole number in decimal; no zero stands in front of them. -/
def decimalDigits (t : Token) : Nat :=
  let ds := t.text.toList.filter (· != '_')
  if ds.all Char.isDigit && ds.head? != some '0' then ds.length else 0

/-- A number must not have too many digits. -/
def takeNumber (s : Search ρ) (place : Nat) : Found :=
  match s.take place true (·.kind == .number) with
  | .found [.leaf t] after =>
    if Numeral.digitLimit < decimalDigits t then
      .stopped (.complaint (.here (Numeral.tooLongMessage (decimalDigits t) ++
        " - Consider hexadecimal for huge integer literals to avoid decimal conversion limits.")))
    else .found [.leaf t] after
  | found => found

/-- Is the token in front of a place in brackets? -/
def isBracketed (s : Search ρ) (place : Nat) : Bool :=
  s.tokens[place - 1]?.any (·.level != 0)

def known? (r : ρ) (place : Nat) (m : Memory ρ) : Option Found :=
  (m[place]?.getD []).lookup r

def remember (r : ρ) (place : Nat) (f : Found) (m : Memory ρ) : Memory ρ :=
  m.modify place fun entries => (r, f) :: entries

mutual

/-- Search for a pattern at a place. No search is nested deeper than its bound. -/
def find (s : Search ρ) (bound : Nat) (explaining : Bool) (place : Nat) (p : Pattern ρ) :
    StateM (Memory ρ) Found :=
  match bound with
  | 0 => pure .missing
  | bound + 1 =>
    match p with
    | .sign text => pure (s.take place false (·.isSign text))
    | .kept text => pure (s.take place true (·.isSign text))
    | .name => pure (s.take place true (·.kind == .name))
    | .softKeyword => pure (s.take place true (·.isSoftKeyword))
    | .number => pure (s.takeNumber place)
    | .quotation => pure (s.take place true (·.kind == .quotation))
    | .lineEnd => pure (s.take place false (·.kind == .lineEnd))
    | .textEnd => pure (s.take place false (·.kind == .textEnd))
    | .rule r => findRule s bound explaining place r
    | .all ps => findAll s bound explaining [] place ps
    | .any ps => findAny s bound explaining place ps
    | .optional p => do
      match ← find s bound explaining place p with
      | .missing => pure (.found [] place)
      | f => pure f
    | .many p => findMany s bound explaining [] place p
    | .ahead p => do
      match ← find s bound explaining place p with
      | .found _ _ => pure (.found [] place)
      | f => pure f
    | .notAhead p => do
      match ← find s bound explaining place p with
      | .found _ _ => pure .missing
      | .missing => pure (.found [] place)
      | f => pure f
    | .explained p => if explaining then find s bound explaining place p else pure .missing
    | .plainly p => find s bound false place p
    | .bracketed => pure (if s.isBracketed place then .found [] place else .missing)

/-- Search for patterns one behind the other; `before` was found in front of them, the
latest first. -/
def findAll (s : Search ρ) (bound : Nat) (explaining : Bool) (before : List Tree) (place : Nat)
    (ps : List (Pattern ρ)) : StateM (Memory ρ) Found :=
  match bound with
  | 0 => pure .missing
  | bound + 1 =>
    match ps with
    | [] => pure (.found before.reverse place)
    | p :: ps => do
      match ← find s bound explaining place p with
      | .found ts after => findAll s bound explaining (ts.reverse ++ before) after ps
      | f => pure f

/-- Search for the first pattern that fits. -/
def findAny (s : Search ρ) (bound : Nat) (explaining : Bool) (place : Nat)
    (ps : List (Pattern ρ)) : StateM (Memory ρ) Found :=
  match bound with
  | 0 => pure .missing
  | bound + 1 =>
    match ps with
    | [] => pure .missing
    | p :: ps => do
      match ← find s bound explaining place p with
      | .missing => findAny s bound explaining place ps
      | f => pure f

/-- Search for a pattern as often as it fits; `before` was found so far, the latest first. -/
def findMany (s : Search ρ) (bound : Nat) (explaining : Bool) (before : List Tree) (place : Nat)
    (p : Pattern ρ) : StateM (Memory ρ) Found :=
  match bound with
  | 0 => pure .missing
  | bound + 1 => do
    match ← find s bound explaining place p with
    | .found ts after => findMany s bound explaining (ts.reverse ++ before) after p
    | .missing => pure (.found before.reverse place)
    | f => pure f

def findRule (s : Search ρ) (bound : Nat) (explaining : Bool) (place : Nat) (r : ρ) :
    StateM (Memory ρ) Found :=
  match bound with
  | 0 => pure .missing
  | bound + 1 => do
    if s.grammar.remembers r then
      match known? r place (← get) with
      | some f => pure f
      | none =>
        let f ← findAlternative s bound explaining place (s.grammar.alternatives r)
        modify (remember r place f)
        pure f
    else findAlternative s bound explaining place (s.grammar.alternatives r)

def findAlternative (s : Search ρ) (bound : Nat) (explaining : Bool) (place : Nat)
    (as : List (Alternative ρ)) : StateM (Memory ρ) Found :=
  match bound with
  | 0 => pure .missing
  | bound + 1 =>
    match as with
    | [] => pure .missing
    | a :: as => do
      match ← find s bound explaining place a.pattern with
      | .found ts after =>
        match a.build ts with
        | .trees ts => pure (.found ts after)
        | .nothing => pure .missing
        | .complaint c => pure (.stopped (.complaint c))
      | .missing => findAlternative s bound explaining place as
      | f => pure f

end

/-- The nesting that is enough for some tokens: between two that are taken, a search
does not go through more rules and patterns than this. -/
def nestingPerToken : Nat := 1000

/-- Search for a rule from the first token on. -/
def run (s : Search ρ) (explaining : Bool) (r : ρ) : Found :=
  ((findRule s (nestingPerToken * (s.tokens.size + 1)) explaining 0 r).run
    (Array.replicate (s.tokens.size + 1) [])).1

end Search

end GestureScript.Console.Argument
