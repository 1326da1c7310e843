import PageFilters.Settings
import PageFilters.Theme

/-!
# The bundled themes

Each theme holds the items that set the scopes of token kinds.
-/

namespace PageFilters.BundledTheme

def bold : FontStyle := { bold := true }

def italic : FontStyle := { italic := true }

/-- An item that only sets the text colour. -/
def inked (selectors : String) (colour : Rgba) : ThemeItem :=
  { selectors := selectors, foreground := some colour }

/-- What a theme looks like. -/
def theme : BundledTheme → Theme
  | .base16OceanDark => {
      foreground := ⟨192, 197, 206, 255⟩
      background := ⟨43, 48, 59, 255⟩
      items := [
        inked "comment" ⟨101, 115, 126, 255⟩,
        inked "keyword.operator" ⟨192, 197, 206, 255⟩,
        inked "keyword" ⟨180, 142, 173, 255⟩,
        inked "variable" ⟨191, 97, 106, 255⟩,
        inked "entity.name.function" ⟨143, 161, 179, 255⟩,
        inked "storage" ⟨180, 142, 173, 255⟩,
        inked "support.function" ⟨150, 181, 180, 255⟩,
        inked "string" ⟨163, 190, 140, 255⟩,
        inked "constant.numeric" ⟨208, 135, 112, 255⟩,
        inked "constant" ⟨208, 135, 112, 255⟩,
        inked "entity.name.tag" ⟨191, 97, 106, 255⟩,
        inked "entity.other.attribute-name" ⟨208, 135, 112, 255⟩,
        ⟨"markup.bold", some ⟨235, 203, 139, 255⟩, none, some bold⟩,
        ⟨"markup.italic", some ⟨180, 142, 173, 255⟩, none, some italic⟩,
        inked "markup.inserted" ⟨163, 190, 140, 255⟩,
        inked "markup.deleted" ⟨191, 97, 106, 255⟩,
        inked "string.regexp" ⟨150, 181, 180, 255⟩,
        inked "constant.character.escape" ⟨150, 181, 180, 255⟩,
        ⟨"invalid.illegal", some ⟨43, 48, 59, 255⟩, some ⟨191, 97, 106, 255⟩, none⟩] }
  | .base16OceanLight => {
      foreground := ⟨79, 91, 102, 255⟩
      background := ⟨239, 241, 245, 255⟩
      items := [
        inked "comment" ⟨167, 173, 186, 255⟩,
        inked "keyword.operator" ⟨79, 91, 102, 255⟩,
        inked "keyword" ⟨180, 142, 173, 255⟩,
        inked "variable" ⟨191, 97, 106, 255⟩,
        inked "entity.name.function" ⟨143, 161, 179, 255⟩,
        inked "storage" ⟨180, 142, 173, 255⟩,
        inked "support.function" ⟨150, 181, 180, 255⟩,
        inked "string" ⟨163, 190, 140, 255⟩,
        inked "constant.numeric" ⟨208, 135, 112, 255⟩,
        inked "constant" ⟨208, 135, 112, 255⟩,
        inked "entity.name.tag" ⟨191, 97, 106, 255⟩,
        inked "entity.other.attribute-name" ⟨208, 135, 112, 255⟩,
        ⟨"markup.bold", some ⟨208, 135, 112, 255⟩, none, some bold⟩,
        ⟨"markup.italic", some ⟨180, 142, 173, 255⟩, none, some italic⟩,
        inked "markup.inserted" ⟨163, 190, 140, 255⟩,
        inked "markup.deleted" ⟨191, 97, 106, 255⟩,
        inked "string.regexp" ⟨150, 181, 180, 255⟩,
        inked "constant.character.escape" ⟨150, 181, 180, 255⟩,
        ⟨"invalid.illegal", some ⟨239, 241, 245, 255⟩, some ⟨191, 97, 106, 255⟩, none⟩] }
  | .base16EightiesDark => {
      foreground := ⟨211, 208, 200, 255⟩
      background := ⟨45, 45, 45, 255⟩
      items := [
        inked "comment" ⟨116, 115, 105, 255⟩,
        inked "keyword.operator" ⟨211, 208, 200, 255⟩,
        inked "keyword" ⟨204, 153, 204, 255⟩,
        inked "variable" ⟨242, 119, 122, 255⟩,
        inked "entity.name.function" ⟨102, 153, 204, 255⟩,
        inked "storage" ⟨204, 153, 204, 255⟩,
        inked "support.function" ⟨102, 204, 204, 255⟩,
        inked "string" ⟨153, 204, 153, 255⟩,
        inked "constant.numeric" ⟨249, 145, 87, 255⟩,
        inked "constant" ⟨249, 145, 87, 255⟩,
        inked "entity.name.tag" ⟨242, 119, 122, 255⟩,
        inked "entity.other.attribute-name" ⟨249, 145, 87, 255⟩,
        ⟨"markup.bold", some ⟨255, 204, 102, 255⟩, none, some bold⟩,
        ⟨"markup.italic", some ⟨204, 153, 204, 255⟩, none, some italic⟩,
        inked "markup.inserted" ⟨153, 204, 153, 255⟩,
        inked "markup.deleted" ⟨242, 119, 122, 255⟩,
        inked "string.regexp" ⟨102, 204, 204, 255⟩,
        inked "constant.character.escape" ⟨102, 204, 204, 255⟩,
        ⟨"invalid.illegal", some ⟨45, 45, 45, 255⟩, some ⟨242, 119, 122, 255⟩, none⟩] }
  | .base16MochaDark => {
      foreground := ⟨208, 200, 198, 255⟩
      background := ⟨59, 50, 40, 255⟩
      items := [
        inked "comment" ⟨126, 112, 90, 255⟩,
        inked "keyword.operator" ⟨208, 200, 198, 255⟩,
        inked "keyword" ⟨168, 155, 185, 255⟩,
        inked "variable" ⟨203, 96, 119, 255⟩,
        inked "entity.name.function" ⟨138, 179, 181, 255⟩,
        inked "storage" ⟨168, 155, 185, 255⟩,
        inked "support.function" ⟨123, 189, 164, 255⟩,
        inked "string" ⟨190, 181, 91, 255⟩,
        inked "constant.numeric" ⟨210, 139, 113, 255⟩,
        inked "constant" ⟨210, 139, 113, 255⟩,
        inked "entity.name.tag" ⟨203, 96, 119, 255⟩,
        inked "entity.other.attribute-name" ⟨210, 139, 113, 255⟩,
        ⟨"markup.bold", some ⟨244, 188, 135, 255⟩, none, some bold⟩,
        ⟨"markup.italic", some ⟨168, 155, 185, 255⟩, none, some italic⟩,
        inked "markup.inserted" ⟨190, 181, 91, 255⟩,
        inked "markup.deleted" ⟨203, 96, 119, 255⟩,
        inked "string.regexp" ⟨123, 189, 164, 255⟩,
        inked "constant.character.escape" ⟨123, 189, 164, 255⟩,
        ⟨"invalid.illegal", some ⟨59, 50, 40, 255⟩, some ⟨203, 96, 119, 255⟩, none⟩] }
  | .solarizedDark => {
      foreground := ⟨131, 148, 150, 255⟩
      background := ⟨0, 43, 54, 255⟩
      items := [
        inked "comment" ⟨88, 110, 117, 255⟩,
        inked "string" ⟨42, 161, 152, 255⟩,
        inked "string.regexp" ⟨42, 161, 152, 255⟩,
        inked "constant.character.escape" ⟨220, 50, 47, 255⟩,
        inked "constant.numeric" ⟨108, 113, 196, 255⟩,
        inked "variable" ⟨38, 139, 210, 255⟩,
        inked "keyword" ⟨133, 153, 0, 255⟩,
        inked "storage" ⟨133, 153, 0, 255⟩,
        inked "entity.name" ⟨181, 137, 0, 255⟩,
        inked "entity.other.attribute-name" ⟨181, 137, 0, 255⟩,
        inked "support" ⟨133, 153, 0, 255⟩,
        inked "entity.name.function" ⟨181, 137, 0, 255⟩,
        inked "constant, constant.language, meta.preprocessor" ⟨181, 137, 0, 255⟩,
        inked "constant.character" ⟨203, 75, 22, 255⟩,
        inked "entity.name.tag" ⟨38, 139, 210, 255⟩,
        inked "support.function" ⟨133, 153, 0, 255⟩,
        inked "storage.type" ⟨38, 139, 210, 255⟩,
        ⟨"invalid", none, some ⟨110, 46, 50, 255⟩, none⟩,
        inked "string.quoted.double" ⟨42, 161, 152, 255⟩,
        inked "markup.deleted" ⟨220, 50, 47, 255⟩,
        inked "markup.inserted" ⟨133, 153, 0, 255⟩,
        inked "markup.heading" ⟨181, 137, 0, 255⟩,
        ⟨"markup.italic", none, none, some italic⟩,
        ⟨"markup.bold", none, none, some bold⟩] }
  | .solarizedLight => {
      foreground := ⟨101, 123, 131, 255⟩
      background := ⟨253, 246, 227, 255⟩
      items := [
        inked "comment" ⟨147, 161, 161, 255⟩,
        inked "string" ⟨42, 161, 152, 255⟩,
        inked "string.regexp" ⟨42, 161, 152, 255⟩,
        inked "constant.character.escape" ⟨220, 50, 47, 255⟩,
        inked "constant.numeric" ⟨108, 113, 196, 255⟩,
        inked "variable" ⟨38, 139, 210, 255⟩,
        inked "keyword" ⟨133, 153, 0, 255⟩,
        inked "storage" ⟨133, 153, 0, 255⟩,
        inked "entity.name" ⟨181, 137, 0, 255⟩,
        inked "entity.other.attribute-name" ⟨181, 137, 0, 255⟩,
        inked "support" ⟨133, 153, 0, 255⟩,
        inked "entity.name.function" ⟨181, 137, 0, 255⟩,
        inked "constant, constant.language, meta.preprocessor" ⟨181, 137, 0, 255⟩,
        inked "constant.character" ⟨203, 75, 22, 255⟩,
        inked "entity.name.tag" ⟨38, 139, 210, 255⟩,
        inked "support.function" ⟨133, 153, 0, 255⟩,
        inked "storage.type" ⟨38, 139, 210, 255⟩,
        ⟨"invalid", none, some ⟨236, 148, 137, 255⟩, none⟩,
        inked "string.quoted.double" ⟨42, 161, 152, 255⟩,
        inked "markup.deleted" ⟨220, 50, 47, 255⟩,
        inked "markup.inserted" ⟨133, 153, 0, 255⟩,
        inked "markup.heading" ⟨181, 137, 0, 255⟩,
        ⟨"markup.italic", none, none, some italic⟩,
        ⟨"markup.bold", none, none, some bold⟩] }
  | .inspiredGitHub => {
      foreground := ⟨50, 50, 50, 255⟩
      background := ⟨255, 255, 255, 255⟩
      items := [
        ⟨"comment", some ⟨150, 152, 150, 255⟩, none, some italic⟩,
        inked "string" ⟨24, 54, 145, 255⟩,
        inked "constant.numeric" ⟨0, 134, 179, 255⟩,
        inked "constant.language" ⟨0, 134, 179, 255⟩,
        inked "constant.character" ⟨0, 134, 179, 255⟩,
        inked "variable" ⟨50, 50, 50, 255⟩,
        ⟨"keyword", some ⟨167, 29, 93, 255⟩, none, some bold⟩,
        ⟨"storage", some ⟨167, 29, 93, 255⟩, none, some bold⟩,
        ⟨"storage.type", some ⟨167, 29, 93, 255⟩, none, some bold⟩,
        ⟨"entity.name.function", some ⟨121, 93, 163, 255⟩, none, some bold⟩,
        inked "entity.name.tag" ⟨99, 163, 92, 255⟩,
        inked "entity.other.attribute-name" ⟨121, 93, 163, 255⟩,
        inked "support.function" ⟨98, 163, 92, 255⟩,
        ⟨"invalid, invalid.illegal", some ⟨181, 42, 29, 255⟩, some ⟨245, 245, 245, 255⟩, some bold⟩,
        ⟨"markup.deleted", none, some ⟨255, 236, 236, 255⟩, none⟩,
        ⟨"markup.inserted", none, some ⟨234, 255, 234, 255⟩, none⟩] }

/-- Every bundled theme under its key. -/
def themeSet : ThemeSet :=
  all.map fun choice => (choice.key, choice.theme)

end PageFilters.BundledTheme
