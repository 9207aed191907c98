import ModalLexer.Catalog.Basic
import ModalLexer.Language.C
import ModalLexer.Language.Ini

/-! # The catalog to begin with -/

namespace ModalLexer.Catalog

variable {ε : Type}

def cInfo : GrammarInfo ε where
  grammar := Language.C.grammar
  names := ["c", "cpp", "c++"]
  mimeTypes := ["text/x-csrc", "text/x-chdr", "text/x-c++src", "text/x-c++hdr"]
  filePatterns := ["*.c", "*.h", "*.cc", "*.cpp", "*.cxx", "*.hh", "*.hpp"]

def iniInfo : GrammarInfo ε where
  grammar := Language.Ini.grammar
  names := ["ini", "cfg", "dosini"]
  mimeTypes := ["text/x-ini"]
  filePatterns := ["*.ini", "*.cfg", "*.inf", ".editorconfig", ".gitconfig"]

/-- The catalog of the languages that come with the library, the preferred one first. -/
def builtin : Catalog ε := (∅ : Catalog ε).registerAll [cInfo, iniInfo]

end ModalLexer.Catalog
