import PageFilters.Grammar.Definition

/-!
# Grammars of programs

The bundled grammars of two small programming languages.
-/

namespace PageFilters.Grammar.Bundled

/-- Programs with long brackets, whose ends repeat what began them. -/
def lua : Definition where
  name := "Lua"
  scope := "source.lua"
  claims := ["lua"]
  contexts := [
    ("a0", [
      .metaScope "string.quoted.single.lua",
      .rule "'" "" [(0, "punctuation.definition.string.end.lua")] .pop none,
      .rule "\\\\([abfnrtv\\\\\"']|\\r?\\n|\\n\\r?|\\d\\d?\\d?)" "constant.character.escape.lua"
        [] .stay none,
      .rule "\\\\[xX][0-9a-fA-F][0-9a-fA-F]" "constant.character.escape.lua" [] .stay none,
      .rule "\\\\u\\\x7b[0-9a-fA-F]\x7b,7\x7d\\\x7d" "constant.character.escape.lua" [] .stay none]),
    ("a1", [
      .metaScope "string.quoted.double.lua",
      .rule "\"" "" [(0, "punctuation.definition.string.end.lua")] .pop none,
      .rule "\\\\([abfnrtv\\\\\"']|\\r?\\n|\\n\\r?|\\d\\d?\\d?)" "constant.character.escape.lua"
        [] .stay none,
      .rule "\\\\[xX][0-9a-fA-F][0-9a-fA-F]" "constant.character.escape.lua" [] .stay none,
      .rule "\\\\u\\\x7b[0-9a-fA-F]\x7b,7\x7d\\\x7d" "constant.character.escape.lua" [] .stay none]),
    ("a2", [
      .metaScope "string.quoted.other.multiline.lua",
      .rule "\\]\\1\\]" "" [(0, "punctuation.definition.string.end.lua")] .pop none]),
    ("a3", [
      .metaScope "comment.block.lua",
      .rule "\\]\\1\\]" "" [(0, "punctuation.definition.comment.lua")] .pop none]),
    ("main", [
      .rule "\\b(function)\\s+([a-zA-Z_.:]+[.:])?([a-zA-Z_]\\w*)\\s*(\\()([^)]*)(\\))"
        "meta.function.lua"
        [(1, "keyword.control.lua"), (2, "entity.name.function.scope.lua"),
         (3, "entity.name.function.lua"), (4, "punctuation.definition.parameters.begin.lua"),
         (5, "variable.parameter.function.lua"), (6, "punctuation.definition.parameters.end.lua")]
        .stay none,
      .rule ("(?<![\\d.])\\b0[xX][a-fA-F\\d\\.]+([pP][\\-\\+]?\\d+)?|\\b\\d+(\\.\\d+)?([eE]-?\\" ++
             "d+)?|\\.\\d+([eE]-?\\d+)?") "constant.numeric.lua" [] .stay none,
      .rule "'" "" [(0, "punctuation.definition.string.begin.lua")] (.push [.written "a0"]) none,
      .rule "\"" "" [(0, "punctuation.definition.string.begin.lua")] (.push [.written "a1"]) none,
      .rule "(?<!--)\\[(=*)\\[" "" [(0, "punctuation.definition.string.begin.lua")]
        (.push [.written "a2"]) none,
      .rule "--\\[(=*)\\[" "" [(0, "punctuation.definition.comment.lua")] (.push [.written "a3"])
        none,
      .rule "(--)(?!\\[\\[).*$\\n?" "comment.line.double-dash.lua"
        [(1, "punctuation.definition.comment.lua")] .stay none,
      .rule ("\\b(break|do|else|for|if|elseif|return|then|repeat|while|until|end|function|local" ++
             "|in)\\b") "keyword.control.lua" [] .stay none,
      .rule ("(?<![^.]\\.|:)\\b(false|nil|true|_G|_VERSION|math\\.(pi|huge))\\b|(?<![.])\\.\x7b" ++
             "3\x7d(?!\\.)") "constant.language.lua" [] .stay none,
      .rule "(?<![^.]\\.|:)\\b(self)\\b" "variable.language.self.lua" [] .stay none,
      .rule ("(?<![^.]\\.|:)\\b(assert|collectgarbage|dofile|error|getfenv|getmetatable|ipairs|" ++
             "loadfile|loadstring|module|next|pairs|pcall|print|rawequal|rawget|rawset|require|" ++
             "select|setfenv|setmetatable|tonumber|tostring|type|unpack|xpcall)\\b(?=[( \x7b\"'" ++
             "\\[])") "support.function.lua" [] .stay none,
      .rule ("(?<![^.]\\.|:)\\b(coroutine\\.(create|resume|running|status|wrap|yield)|string\\." ++
             "(byte|char|dump|find|format|gmatch|gsub|len|lower|match|rep|reverse|sub|upper)|ta" ++
             "ble\\.(concat|insert|maxn|remove|sort)|math\\.(abs|acos|asin|atan2?|ceil|cosh?|de" ++
             "g|exp|floor|fmod|frexp|ldexp|log|log10|max|min|modf|pow|rad|random|randomseed|sin" ++
             "h?|sqrt|tanh?)|io\\.(close|flush|input|lines|open|output|popen|read|tmpfile|type|" ++
             "write)|os\\.(clock|date|difftime|execute|exit|getenv|remove|rename|setlocale|time" ++
             "|tmpname)|package\\.(cpath|loaded|loadlib|path|preload|seeall)|debug\\.(debug|[gs" ++
             "]etfenv|[gs]ethook|getinfo|[gs]etlocal|[gs]etmetatable|getregistry|[gs]etupvalue|" ++
             "traceback))\\b(?=[( \x7b\"'\\[])") "support.function.library.lua" [] .stay
        none,
      .rule "\\b(and|or|not)\\b" "keyword.operator.lua" [] .stay none,
      .rule "\\+|-|%|#|\\*|\\/|\\^|==?|~=|<=?|>=?|(?<!\\.)\\.\x7b2\x7d(?!\\.)"
        "keyword.operator.lua" [] .stay none])]

/-- Programs with words in any case. -/
def pascal : Definition where
  name := "Pascal"
  scope := "source.pascal"
  claims := ["pas", "p", "dpr"]
  contexts := [
    ("a0", [
      .metaScope "comment.line.double-dash.pascal.one",
      .rule "\\n" "" [] .pop none]),
    ("a1", [
      .metaScope "comment.line.double-slash.pascal.two",
      .rule "\\n" "" [] .pop none]),
    ("a2", [
      .metaScope "comment.block.pascal.one",
      .rule "\\*\\)" "" [(0, "punctuation.definition.comment.pascal")] .pop none]),
    ("a3", [
      .metaScope "comment.block.pascal.two",
      .rule "\\\x7d" "" [(0, "punctuation.definition.comment.pascal")] .pop none]),
    ("a4", [
      .metaScope "string.quoted.double.pascal",
      .rule "\"" "" [(0, "punctuation.definition.string.end.pascal")] .pop none,
      .rule "\\\\." "constant.character.escape.pascal" [] .stay none]),
    ("a5", [
      .metaScope "string.quoted.single.pascal",
      .rule "''" "constant.character.escape.apostrophe.pascal" [] .stay none,
      .rule "'" "" [(0, "punctuation.definition.string.end.pascal")] .pop none]),
    ("main", [
      .rule ("\\b(?i:(absolute|abstract|all|and|and_then|array|as|asm|attribute|begin|bindable|" ++
             "case|class|const|constructor|destructor|div|do|do|else|end|except|export|exports|" ++
             "external|far|file|finalization|finally|for|forward|goto|if|implementation|import|" ++
             "in|inherited|initialization|interface|interrupt|is|label|library|mod|module|name|" ++
             "near|nil|not|object|of|only|operator|or|or_else|otherwise|packed|pow|private|prog" ++
             "ram|property|protected|public|published|qualified|record|repeat|resident|restrict" ++
             "ed|segment|set|shl|shr|then|to|try|type|unit|until|uses|value|var|view|virtual|wh" ++
             "ile|with|xor))\\b") "keyword.control.pascal" [] .stay none,
      .rule ("\\b(?i:(function|procedure))\\b\\s+(\\w+(\\.\\w+)?)(\\(.*?\\))?;\\s*(?=(?i:attrib" ++
             "ute|forward|external))") "meta.function.prototype.pascal"
        [(1, "storage.type.prototype.pascal"), (2, "entity.name.function.prototype.pascal")] .stay
        none,
      .rule "\\b(?i:(function|procedure))\\b\\s+(\\w+(\\.\\w+)?)" "meta.function.pascal"
        [(1, "storage.type.function.pascal"), (2, "entity.name.function.pascal")] .stay none,
      .rule ("\\b((0(x|X)[0-9a-fA-F]*)|(([0-9]+\\.?[0-9]*)|(\\.[0-9]+))((e|E)(\\+|-)?[0-9]+)?)(" ++
             "L|l|UL|ul|u|U|F|f|ll|LL|ull|ULL)?\\b") "constant.numeric.pascal" [] .stay
        none,
      .rule "(^[ \\t]+)?(--)" ""
        [(1, "punctuation.whitespace.comment.leading.pascal"),
         (2, "punctuation.definition.comment.pascal")] (.push [.written "a0"]) none,
      .rule "(^[ \\t]+)?(//)" ""
        [(1, "punctuation.whitespace.comment.leading.pascal"),
         (2, "punctuation.definition.comment.pascal")] (.push [.written "a1"]) none,
      .rule "\\(\\*" "" [(0, "punctuation.definition.comment.pascal")] (.push [.written "a2"])
        none,
      .rule "\\\x7b" "" [(0, "punctuation.definition.comment.pascal")] (.push [.written "a3"])
        none,
      .rule "\"" "" [(0, "punctuation.definition.string.begin.pascal")] (.push [.written "a4"])
        none,
      .rule "'" "" [(0, "punctuation.definition.string.begin.pascal")] (.push [.written "a5"])
        none])]

end PageFilters.Grammar.Bundled
