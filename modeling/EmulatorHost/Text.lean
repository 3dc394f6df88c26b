import EmulatorHost.Text.Utf8
import EmulatorHost.Text.Blank
import EmulatorHost.Text.Lines
import EmulatorHost.Text.Quoted
import EmulatorHost.Text.Numeral

/-!
# Text

Everything that reads or writes text at the level of characters: UTF-8, white space, lines,
numerals and quoting.
-/
