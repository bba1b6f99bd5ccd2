import Mathlib.Data.List.Basic

set_option autoImplicit false

namespace NineGateway.ModelMatch

inductive Token where
  | literal (rune : Char)
  | star
  | question
  | «class» (negated : Bool) (ranges : List (Char × Char))
deriving DecidableEq, Repr

structure Pattern where
  source : String
  tokens : List Token
deriving DecidableEq, Repr

def classRune : List Char → Option (Char × List Char)
  | [] => none
  | rune :: rest =>
    if rune = '\\' then rest.head?.map (fun next => (next, rest.tail))
    else if rune = '[' then none
    else some (rune, rest)

def classRange (runes : List Char) : Option ((Char × Char) × List Char) := do
  let (lo, rest) ← classRune runes
  match rest with
  | '-' :: bound =>
    if bound.head?.getD ']' = ']' then none
    else
      let (hi, after) ← classRune bound
      if hi < lo then none else some ((lo, hi), after)
  | _ => some ((lo, lo), rest)

-- The ranges up to the closing bracket. Each takes a rune at least, so that as many
-- turns as there are runes are enough.
def classRanges : Nat → List Char → Option (List (Char × Char) × List Char)
  | 0, _ => none
  | _ + 1, [] => none
  | fuel + 1, runes =>
    if runes.head? = some ']' then some ([], runes.tail)
    else do
      let (range, rest) ← classRange runes
      let (ranges, after) ← classRanges fuel rest
      return (range :: ranges, after)

def parseClass (runes : List Char) : Option (Token × List Char) := do
  let negated := decide (runes.head? = some '!' ∨ runes.head? = some '^')
  let (ranges, rest) ← classRanges runes.length (if negated then runes.tail else runes)
  if ranges = [] then none else return (.class negated ranges, rest)

def compileTokens : Nat → List Char → Option (List Token)
  | _, [] => some []
  | 0, _ => none
  | fuel + 1, rune :: rest =>
    if rune = '\\' then rest.head?.bind fun quoted => (compileTokens fuel rest.tail).map (Token.literal quoted :: ·)
    else if rune = '*' then (compileTokens fuel rest).map (fun tokens => if tokens.head? = some .star then tokens else .star :: tokens)
    else if rune = '?' then (compileTokens fuel rest).map (Token.question :: ·)
    else if rune = '[' then (parseClass rest).bind fun parsed => (compileTokens fuel parsed.2).map (parsed.1 :: ·)
    else (compileTokens fuel rest).map (Token.literal rune :: ·)

def compile (source : String) : Option Pattern :=
  if source = "" then none else (compileTokens source.toList.length source.toList).map (Pattern.mk source)

end NineGateway.ModelMatch
