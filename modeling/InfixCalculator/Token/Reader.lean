import InfixCalculator.Token.Basic
import InfixCalculator.Token.Lexeme

/-!
# Reading tokens

Each lexeme of an expression is a number, a symbol, a gap or the end of the stream:
digits are read as a number unless there are too many of them, a delimiter is a symbol,
blanks are skipped, and anything else breaks the stream off.
-/

namespace InfixCalculator

/-- The tokens of lexemes that stand at a given offset. -/
def TokenStream.ofLexemes (position : Int) : List Lexeme → TokenStream
  | [] => .done
  | lexeme :: rest =>
      let following := ofLexemes (position + lexeme.chars.length) rest
      match lexeme.charClass with
      | .digit =>
          if maxLiteralDigits < lexeme.chars.length then
            .failed ⟨.literalTooLong, some position⟩
          else .token (.number (Decimal.value lexeme.chars) position) following
      | .delimiter => .token (.symbol (String.ofList lexeme.chars) position) following
      | .blank => following
      | .foreign => .failed ⟨.invalidRun (String.ofList lexeme.chars), some position⟩

/-- The tokens of a text. -/
def Delimiters.tokenize (delimiters : Delimiters) (text : String) : TokenStream :=
  TokenStream.ofLexemes 0 (delimiters.lexemes (delimiters.normalize text))

end InfixCalculator
