import ModalLexer.Grammar.Basic
import ModalLexer.Rule.Predefined

/-! # Settings files

Sections in brackets, comments, and a setting on each line. The sign behind the name of a setting
opens the mode of its value, which ends with the line.
-/

namespace ModalLexer.Language.Ini

variable {ε : Type}

def root : List (Rule ε) := [
  .procedure (.scanIf Text.isBlank .whitespace),
  .newline,
  .pattern "[;#][^\\n]*" ((Action.emit [.codeComment]).andThen (.score 1)),
  .pattern "(\\[)([^\\]\\n]*)(\\])"
    ((Action.emit [.codeDelimiter, .codeIdentifierNamespace, .codeDelimiter]).andThen (.score 2)),
  .pattern "([A-Za-z0-9_.\\-]+)([ \\t]*)([=:])"
    (((Action.emit [.codeIdentifierVariable, .textWhiteSpace, .codeOperatorAssignment]).andThen
      (.score 1)).andThen (.enter "value")),
  .pattern "[^\\r\\n]" ((Action.emit [.textInvalid]).andThen (.score (-1)))]

def value : List (Rule ε) := [
  .pattern "[ \\t]+" (.emit [.textWhiteSpace]),
  .pattern "[\\n\\r]+" ((Action.emit [.textNewLine]).andThen .exit),
  .pattern "[;#][^\\n]*" (.emit [.codeComment]),
  .procedure (.scanIf (· = '"') .doubleQuoted),
  .pattern "(?i:true|false|yes|no|on|off)\\b" (.emit [.codeIdentifierLiteral]),
  .pattern "[-+]?[0-9]+\\.[0-9]+\\b" (.emit [.codeNumberDecimal]),
  .pattern "[-+]?[0-9]+\\b" (.emit [.codeNumberInteger]),
  .pattern "[^\\r\\n;#]+" (.emit [.codeString])]

def grammar : Grammar ε where
  name := "ini"
  modes? := some [⟨"root", root⟩, ⟨"value", value⟩]

end ModalLexer.Language.Ini
