import Keystroke.Command.Table
import Keystroke.Text.EditDistance
import Keystroke.Text.LowerBlocks

/-! Commands that may have been meant by an unknown word: those with a spelling that holds the letters of
the word in order, the closest first. -/
namespace Keystroke.Statement

open Keystroke.Command Keystroke.Text

/-- The characters of the first text occur in the second one in order. -/
def occursIn : List Char → List Char → Bool
  | [], _ => true
  | _ :: _, [] => false
  | c :: cs, d :: ds => if c = d then occursIn cs ds else occursIn (c :: cs) ds

/-- How far a spelling is from a word that it holds, regardless of case. A spelling with fewer bytes than
the word does not qualify. -/
def distance? (word spelling : String) : Option Nat :=
  let source := lowerInBlocks word.toList
  let target := lowerInBlocks spelling.toList
  if (String.ofList source).utf8ByteSize ≤ (String.ofList target).utf8ByteSize
      && occursIn source target then
    some (editDistance word.toList spelling.toList)
  else none

/-- Puts a ranked token before the first one with a greater distance. -/
def insertRanked (item : Nat × String) : List (Nat × String) → List (Nat × String)
  | [] => [item]
  | other :: rest => if item.1 < other.1 then item :: other :: rest else other :: insertRanked item rest

/-- Ranked tokens in the order of their distances; ties keep their order. -/
def sortRanked (items : List (Nat × String)) : List (Nat × String) :=
  items.foldl (fun sorted item => insertRanked item sorted) []

def distinctTokens : List String → List String
  | [] => []
  | token :: rest => token :: (distinctTokens rest).filter (· ≠ token)

def suggestionLimit : Nat := 3

/-- The commands with a spelling that qualifies, with its distance, in order of declaration. -/
def ranked (table : Table) (word : String) : List (Nat × String) :=
  (table.aliases.filter fun a => (table.root.child? a.token).isSome).filterMap fun a =>
    (distance? word a.spelling).map (·, a.token)

/-- The commands closest to a word of two or more characters. -/
def suggestions (table : Table) (word : String) : List String :=
  if word.length < 2 then []
  else (distinctTokens ((sortRanked (ranked table word)).map (·.2))).take suggestionLimit

end Keystroke.Statement
