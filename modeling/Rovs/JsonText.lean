import Rovs.Bytes

/-!
# JSON texts

The grammar of JSON over bytes, with a bound on how deep arrays and objects are nested.
It accepts every JSON text and some more: the digits of a number and the character behind
a backslash are not checked, nor is the encoding of the characters of a string.
-/

namespace Rovs.JsonText

def quote : U8 := 0x22
def backslash : U8 := 0x5c
def openBrace : U8 := 0x7b
def closeBrace : U8 := 0x7d
def openBracket : U8 := 0x5b
def closeBracket : U8 := 0x5d
def comma : U8 := 0x2c
def colon : U8 := 0x3a

/-- White space: blanks, tabs, line feeds and carriage returns. -/
def Blank (text : Bytes) : Prop := ∀ byte ∈ text, byte ∈ [0x20, 0x09, 0x0a, 0x0d]

/-- The bytes of a number or of `true`, `false` and `null`. -/
def isScalarByte (byte : U8) : Bool :=
  (0x30 ≤ byte && byte ≤ 0x39) || (0x61 ≤ byte && byte ≤ 0x7a) || byte == 0x45 ||
    byte == 0x2b || byte == 0x2d || byte == 0x2e

def Scalar (text : Bytes) : Prop := text ≠ [] ∧ ∀ byte ∈ text, isScalarByte byte = true

/-- The characters of a string between its quotes; a backslash takes the byte behind it. -/
inductive Chars : Bytes → Prop
  | nil : Chars []
  | plain {byte : U8} {text : Bytes} (hquote : byte ≠ quote) (hbackslash : byte ≠ backslash)
      (h : Chars text) : Chars (byte :: text)
  | escape (byte : U8) {text : Bytes} (h : Chars text) : Chars (backslash :: byte :: text)

/-- A string with its quotes. -/
def Quoted (text : Bytes) : Prop := ∃ chars, Chars chars ∧ text = quote :: (chars ++ [quote])

inductive Symbol where
  | value
  | element
  | elements
  | member
  | members
deriving DecidableEq, Repr

/-- The texts of a symbol in which arrays and objects are nested at most `n` deep. -/
inductive Derives : Symbol → Nat → Bytes → Prop
  | scalar {n : Nat} {text : Bytes} (h : Scalar text) : Derives .value n text
  | string {n : Nat} {text : Bytes} (h : Quoted text) : Derives .value n text
  | emptyArray {n : Nat} {ws : Bytes} (hws : Blank ws) :
      Derives .value (n + 1) (openBracket :: (ws ++ [closeBracket]))
  | array {n : Nat} {text : Bytes} (h : Derives .elements n text) :
      Derives .value (n + 1) (openBracket :: (text ++ [closeBracket]))
  | emptyObject {n : Nat} {ws : Bytes} (hws : Blank ws) :
      Derives .value (n + 1) (openBrace :: (ws ++ [closeBrace]))
  | object {n : Nat} {text : Bytes} (h : Derives .members n text) :
      Derives .value (n + 1) (openBrace :: (text ++ [closeBrace]))
  | element {n : Nat} {ws text ws' : Bytes} (hws : Blank ws) (h : Derives .value n text)
      (hws' : Blank ws') : Derives .element n (ws ++ (text ++ ws'))
  | oneElement {n : Nat} {text : Bytes} (h : Derives .element n text) :
      Derives .elements n text
  | elements {n : Nat} {first rest : Bytes} (hfirst : Derives .element n first)
      (hrest : Derives .elements n rest) : Derives .elements n (first ++ comma :: rest)
  | member {n : Nat} {ws key ws' text : Bytes} (hws : Blank ws) (hkey : Quoted key)
      (hws' : Blank ws') (h : Derives .element n text) :
      Derives .member n (ws ++ (key ++ (ws' ++ colon :: text)))
  | oneMember {n : Nat} {text : Bytes} (h : Derives .member n text) : Derives .members n text
  | members {n : Nat} {first rest : Bytes} (hfirst : Derives .member n first)
      (hrest : Derives .members n rest) : Derives .members n (first ++ comma :: rest)

/-- The text of a JSON object. -/
def IsObject (n : Nat) (text : Bytes) : Prop :=
  Derives .value n text ∧ text.head? = some openBrace

end Rovs.JsonText
