import PageFilters.Grammar.Definition

/-!
# Grammars of documents

The bundled grammars of differences, data and mark-up.  Contexts without a
name of their own are called `a0`, `a1` and so on.
-/

namespace PageFilters.Grammar.Bundled

def diff : Definition where
  name := "Diff"
  scope := "source.diff"
  claims := ["diff", "patch"]
  firstLine := some ("(?x)^\n    (===\\ modified\\ file\n    |==== \\s* // .+ \\s - \\s .+ \\s+ ====\n    |In" ++
       "dex:[ ]\n    |---\\ [^%]\n    |\\*\\*\\*.*\\d\x7b4\x7d\\s*$\n    |\\d+(,\\d+)* (a|d|c) " ++
       "\\d+(,\\d+)* $\n    |diff\\ --git[ ]\n    )")
  contexts := [
    ("main", [
      .rule "^((\\*\x7b15\x7d)|(=\x7b67\x7d)|(-\x7b3\x7d))$\\n?" "meta.separator.diff"
        [(1, "punctuation.definition.separator.diff")] .stay none,
      .rule "^\\d+(,\\d+)*(a|d|c)\\d+(,\\d+)*$\\n?" "meta.diff.range.normal" [] .stay none,
      .rule "^(@@)\\s*(.+?)\\s*(@@)($\\n?)?" "meta.diff.range.unified"
        [(1, "punctuation.definition.range.diff"), (2, "meta.toc-list.line-number.diff"),
         (3, "punctuation.definition.range.diff")] .stay none,
      .rule "^(((\\-\x7b3\x7d) .+ (\\-\x7b4\x7d))|((\\*\x7b3\x7d) .+ (\\*\x7b4\x7d)))$\\n?"
        "meta.diff.range.context"
        [(3, "punctuation.definition.range.diff"), (4, "punctuation.definition.range.diff"),
         (6, "punctuation.definition.range.diff"), (7, "punctuation.definition.range.diff")] .stay
        none,
      .rule "(^(((-\x7b3\x7d) .+)|((\\*\x7b3\x7d) .+))$\\n?|^(=\x7b4\x7d) .+(?= - ))"
        "meta.diff.header.from-file"
        [(4, "punctuation.definition.from-file.diff"),
         (6, "punctuation.definition.from-file.diff"),
         (7, "punctuation.definition.from-file.diff")] .stay none,
      .rule "(^(\\+\x7b3\x7d) .+$\\n?| (-) .* (=\x7b4\x7d)$\\n?)" "meta.diff.header.to-file"
        [(2, "punctuation.definition.to-file.diff"), (3, "punctuation.definition.to-file.diff"),
         (4, "punctuation.definition.to-file.diff")] .stay none,
      .rule "^(((>)( .*)?)|((\\+).*))$\\n?" "markup.inserted.diff"
        [(3, "punctuation.definition.inserted.diff"), (6, "punctuation.definition.inserted.diff")]
        .stay none,
      .rule "^(!).*$\\n?" "markup.changed.diff" [(1, "punctuation.definition.changed.diff")] .stay
        none,
      .rule "^(((<)( .*)?)|((-).*))$\\n?" "markup.deleted.diff"
        [(3, "punctuation.definition.deleted.diff"), (6, "punctuation.definition.deleted.diff")]
        .stay none,
      .rule "^Index(:) (.+)$\\n?" "meta.diff.index"
        [(1, "punctuation.separator.key-value.diff"), (2, "meta.toc-list.file-name.diff")] .stay
        none])]

def json : Definition where
  name := "JSON"
  scope := "source.json"
  claims := ["json", "sublime-settings", "sublime-menu", "sublime-keymap", "sublime-mousemap",
    "sublime-theme", "sublime-build", "sublime-project", "sublime-completions",
    "sublime-commands", "sublime-macro", "sublime-color-scheme"]
  contexts := [
    ("a0", [
      .metaScope "meta.structure.array.json",
      .rule "\\]" "punctuation.section.array.end.json" [] .pop none,
      .includes "value",
      .rule "," "punctuation.separator.array.json" [] .stay none,
      .rule "[^\\s\\]]" "invalid.illegal.expected-array-separator.json" [] .stay none]),
    ("a1", [
      .metaScope "comment.block.documentation.json",
      .rule "\\*/" "" [] .pop none]),
    ("a2", [
      .metaScope "comment.block.json",
      .rule "\\*/" "" [] .pop none]),
    ("a3", [
      .metaScope "meta.structure.dictionary.json",
      .rule "\\\x7d" "punctuation.section.dictionary.end.json" [] .pop none,
      .rule "\"" "punctuation.definition.string.begin.json" [] (.push [.written "a4"]) none,
      .includes "comments",
      .rule ":" "punctuation.separator.dictionary.key-value.json" [] (.push [.written "a5"]) none,
      .rule "[^\\s\\\x7d]" "invalid.illegal.expected-dictionary-separator.json" [] .stay none]),
    ("a4", [
      .metaScope "meta.structure.dictionary.key.json string.quoted.double.json",
      .includes "inside-string"]),
    ("a5", [
      .metaScope "meta.structure.dictionary.value.json",
      .rule "(,)|(?=\\\x7d)" "" [(1, "punctuation.separator.dictionary.pair.json")] .pop none,
      .includes "value",
      .rule "[^\\s,]" "invalid.illegal.expected-dictionary-separator.json" [] .stay none]),
    ("array", [
      .rule "\\[" "punctuation.section.array.begin.json" [] (.push [.written "a0"]) none]),
    ("comments", [
      .rule "/\\*\\*(?!/)" "punctuation.definition.comment.json" [] (.push [.written "a1"]) none,
      .rule "/\\*" "punctuation.definition.comment.json" [] (.push [.written "a2"]) none,
      .rule "(//).*$\\n?" "comment.line.double-slash.js"
        [(1, "punctuation.definition.comment.json")] .stay none]),
    ("constant", [
      .rule "\\b(?:true|false|null)\\b" "constant.language.json" [] .stay none]),
    ("inside-string", [
      .metaScope "string.quoted.double.json",
      .rule "\"" "punctuation.definition.string.end.json" [] .pop none,
      .includes "string-escape",
      .rule "$\\n?" "invalid.illegal.unclosed-string.json" [] .pop none]),
    ("main", [
      .includes "value"]),
    ("number", [
      .rule ("(?x:         # turn on extended mode\n  -?         # an optional minus\n  (?:\n  " ++
             "  0        # a zero\n    |        # ...or...\n    [1-9]    # a 1-9 character\n   " ++
             " \\d*      # followed by zero or more digits\n  )\n  (?:\n    (?:\n      \\.     " ++
             "# a period\n      \\d+    # followed by one or more digits\n    )?\n    (?:\n    " ++
             "  [eE]   # an e character\n      [+-]?  # followed by an option +/-\n      \\d+  " ++
             "  # followed by one or more digits\n    )?       # make exponent optional\n  )?  " ++
             "       # make decimal portion optional\n)") "constant.numeric.json" [] .stay
        none]),
    ("object", [
      .rule "\\\x7b" "punctuation.section.dictionary.begin.json" [] (.push [.written "a3"]) none]),
    ("string", [
      .rule "\"" "punctuation.definition.string.begin.json" [] (.push [.written "inside-string"])
        none]),
    ("string-escape", [
      .rule ("(?x:                # turn on extended mode\n  \\\\                # a literal ba" ++
             "ckslash\n  (?:               # ...followed by...\n    [\"\\\\/bfnrt]     # one of" ++
             " these characters\n    |               # ...or...\n    u               # a u\n   " ++
             " [0-9a-fA-F]\x7b4\x7d  # and four hex digits\n  )\n)")
        "constant.character.escape.json" [] .stay none,
      .rule "\\\\." "invalid.illegal.unrecognized-string-escape.json" [] .stay none]),
    ("value", [
      .includes "constant",
      .includes "number",
      .includes "string",
      .includes "array",
      .includes "object",
      .includes "comments"])]

def javaProperties : Definition where
  name := "Java Properties"
  scope := "source.java-props"
  claims := ["properties"]
  contexts := [
    ("a0", [
      .metaScope "comment.block.java-props",
      .rule "\\*/" "" [(0, "punctuation.definition.comment.java-props")] .pop none]),
    ("main", [
      .rule "([#!])(.+)?$\\n?" "comment.line.number-sign.java-props"
        [(1, "punctuation.definition.comment.java-props")] .stay none,
      .rule "/\\*" "" [(0, "punctuation.definition.comment.java-props")] (.push [.written "a0"])
        none,
      .rule "^([^:=]+)([:=])(.*)$" ""
        [(1, "keyword.other.java-props"), (2, "punctuation.separator.key-value.java-props")] .stay
        none])]

def xml : Definition where
  name := "XML"
  scope := "text.xml"
  claims := ["xml", "xsd", "xslt", "tld", "dtml", "rss", "opml", "svg"]
  firstLine := some ("(?x)\n^(?:\n    <\\?xml\\s\n |  \\s*<([\\w-]+):Envelope\\s+xmlns:\\1\\s*=\\s*\"http://s" ++
       "chemas.xmlsoap.org/soap/envelope/\"\\s*>\n )")
  contexts := [
    ("a0", [
      .rule ">" "punctuation.definition.tag.end.xml" [] .pop none,
      .includes "double-quoted-string",
      .includes "single-quoted-string"]),
    ("a1", [
      .metaScope "comment.block.xml",
      .rule "-->" "punctuation.definition.comment.end.xml" [] .pop none,
      .rule "-\x7b2,\x7d" "invalid.illegal.double-hyphen-within-comment.xml" [] .stay none]),
    ("a2", [
      .metaScope "string.quoted.double.xml",
      .rule "\"" "punctuation.definition.string.end.xml" [] .pop none,
      .includes "entity",
      .includes "should-be-entity"]),
    ("a3", [
      .rule ">" "punctuation.definition.tag.end.xml" [] .pop none,
      .rule "\\b(EMPTY|ANY)\\b" "constant.other.xml" [] .stay none,
      .includes "element-parens"]),
    ("a4", [
      .rule "(\\))([*?+])?" ""
        [(1, "punctuation.definition.group.xml"), (2, "keyword.operator.xml")] .pop none,
      .rule "#PCDATA" "constant.other.xml" [] .stay none,
      .rule "[*?+]" "keyword.operator.xml" [] .stay none,
      .rule "[,|]" "punctuation.separator.xml" [] .stay none,
      .includes "element-parens"]),
    ("a5", [
      .rule ">" "punctuation.definition.tag.end.xml" [] .pop none,
      .includes "double-quoted-string",
      .includes "single-quoted-string"]),
    ("a6", [
      .metaScope "meta.internalsubset.xml",
      .rule "\\]" "" [] .pop none,
      .includes "comment",
      .includes "entity-decl",
      .includes "element-decl",
      .includes "attlist-decl",
      .includes "notation-decl",
      .includes "parameter-entity"]),
    ("a7", [
      .metaScope "meta.tag.preprocessor.xml",
      .rule "\\?>" "punctuation.definition.tag.end.xml" [] .pop none,
      .rule ("\\s+(?:([\\p\x7bL\x7d_][\\p\x7bL\x7d\\p\x7bN\x7d_.-]*)(:))?([\\p\x7bL\x7d_][\\p" ++
             "\x7bL\x7d\\p\x7bN\x7d_.-]*)(=)?") ""
        [(1, "entity.other.attribute-name.namespace.xml"),
         (2, "entity.other.attribute-name.xml punctuation.separator.namespace.xml"),
         (3, "entity.other.attribute-name.localname.xml"),
         (4, "punctuation.separator.key-value.xml")] .stay none,
      .includes "double-quoted-string",
      .includes "single-quoted-string"]),
    ("a8", [
      .metaScope "meta.tag.sgml.doctype.xml",
      .rule "\\s*(>)" "" [(1, "punctuation.definition.tag.end.xml")] .pop none,
      .includes "internal-subset"]),
    ("a9", [
      .metaScope "meta.tag.xml",
      .rule "/?>" "punctuation.definition.tag.end.xml" [] .pop none,
      .includes "tag-stuff"]),
    ("a10", [
      .metaScope "meta.tag.xml",
      .rule "/?>" "punctuation.definition.tag.end.xml" [] .pop none,
      .includes "tag-stuff"]),
    ("a11", [
      .metaScope "meta.tag.preprocessor.xml",
      .rule "\\?>" "punctuation.definition.tag.end.xml" [] .pop none,
      .includes "tag-stuff"]),
    ("a12", [
      .metaScope "meta.tag.preprocessor.xml",
      .rule "\\?>" "punctuation.definition.tag.end.xml" [] .pop none]),
    ("a13", [
      .metaScope "string.unquoted.cdata.xml",
      .rule "]]>" "punctuation.definition.string.end.xml" [] .pop none]),
    ("a14", [
      .rule ">" "punctuation.definition.tag.end.xml" [] .pop none,
      .includes "double-quoted-string",
      .includes "single-quoted-string"]),
    ("a15", [
      .metaScope "string.quoted.single.xml",
      .rule "'" "punctuation.definition.string.end.xml" [] .pop none,
      .includes "entity",
      .includes "should-be-entity"]),
    ("attlist-decl", [
      .rule ("(<!)(ATTLIST)\\s+([\\p\x7bL\x7d:_][\\p\x7bL\x7d\\p\x7bN\x7d:_.-]*)\\s+([\\p\x7bL" ++
             "\x7d:_][\\p\x7bL\x7d\\p\x7bN\x7d:_.-]*)") ""
        [(1, "punctuation.definition.tag.begin.xml"), (2, "keyword.attlist.xml"),
         (3, "variable.element.xml"), (4, "variable.attribute-name.xml")] (.push [.written "a0"])
        none]),
    ("comment", [
      .rule "<!--" "punctuation.definition.comment.begin.xml" [] (.push [.written "a1"]) none]),
    ("double-quoted-string", [
      .rule "\"" "punctuation.definition.string.begin.xml" [] (.push [.written "a2"]) none]),
    ("element-decl", [
      .rule "(<!)(ELEMENT)\\s+([\\p\x7bL\x7d:_][\\p\x7bL\x7d\\p\x7bN\x7d:_.-]*)\\s+" ""
        [(1, "punctuation.definition.tag.begin.xml"), (2, "keyword.element.xml"),
         (3, "variable.element.xml")] (.push [.written "a3"]) none]),
    ("element-parens", [
      .rule "\\(" "punctuation.definition.group.xml" [] (.push [.written "a4"]) none]),
    ("entity", [
      .rule "(&)(?:[\\p\x7bL\x7d:_][\\p\x7bL\x7d\\p\x7bN\x7d:_.-]*|#[0-9]+|#x\\h+)(;)"
        "constant.character.entity.xml"
        [(1, "punctuation.definition.constant.xml"), (2, "punctuation.definition.constant.xml")]
        .stay none]),
    ("entity-decl", [
      .rule ("(<!)(ENTITY)\\s+(%\\s+)?([\\p\x7bL\x7d:_][\\p\x7bL\x7d\\p\x7bN\x7d:_.-]*)(\\s+(?:" ++
             "SYSTEM|PUBLIC)\\s+)?") ""
        [(1, "punctuation.definition.tag.begin.xml"), (2, "keyword.entity.xml"),
         (3, "punctuation.definition.entity.xml"), (4, "variable.entity.xml"),
         (5, "keyword.entitytype.xml")] (.push [.written "a5"]) none]),
    ("internal-subset", [
      .rule "\\[" "punctuation.definition.constant.xml" [] (.push [.written "a6"]) none]),
    ("main", [
      .rule "(<\\?)(xml)(?=\\s)" ""
        [(1, "punctuation.definition.tag.begin.xml"), (2, "entity.name.tag.xml")]
        (.push [.written "a7"]) none,
      .rule "(<!)(DOCTYPE)(?:\\s+([\\p\x7bL\x7d:_][\\p\x7bL\x7d\\p\x7bN\x7d:_.-]*))?" ""
        [(1, "punctuation.definition.tag.begin.xml"), (2, "keyword.doctype.xml"),
         (3, "variable.documentroot.xml")] (.push [.written "a8"]) none,
      .includes "comment",
      .rule ("(</?)(?:([\\p\x7bL\x7d_][\\p\x7bL\x7d\\p\x7bN\x7d_.-]*)(:))?([\\p\x7bL\x7d_][\\p" ++
             "\x7bL\x7d\\p\x7bN\x7d_.-]*)([^/>\\s]*)") ""
        [(1, "punctuation.definition.tag.begin.xml"), (2, "entity.name.tag.namespace.xml"),
         (3, "entity.name.tag.xml punctuation.separator.namespace.xml"),
         (4, "entity.name.tag.localname.xml"), (5, "invalid.illegal.bad-tag-name.xml")]
        (.push [.written "a9"]) none,
      .rule "(</?)([\\p\x7bNd\x7d.-][\\p\x7bL\x7d\\p\x7bN\x7d:_.-]*)" ""
        [(1, "punctuation.definition.tag.begin.xml"), (2, "invalid.illegal.bad-tag-name.xml")]
        (.push [.written "a10"]) none,
      .rule "(<\\?)(xml-stylesheet|xml-model)(?=\\s|\\?>)" ""
        [(1, "punctuation.definition.tag.begin.xml"), (2, "entity.name.tag.xml")]
        (.push [.written "a11"]) none,
      .rule ("(<\\?)((?![xX][mM][lL])(?:([\\p\x7bL\x7d_][\\p\x7bL\x7d\\p\x7bN\x7d_.-]*)(:))?([" ++
             "\\p\x7bL\x7d_][\\p\x7bL\x7d\\p\x7bN\x7d_.-]*))(?=\\s|\\?>)") ""
        [(1, "punctuation.definition.tag.begin.xml"), (2, "entity.name.tag.xml")]
        (.push [.written "a12"]) none,
      .includes "entity",
      .rule "<!\\[CDATA\\[" "punctuation.definition.string.begin.xml" [] (.push [.written "a13"])
        none,
      .rule "]]>" "invalid.illegal.missing-entity.xml" [] .stay none,
      .includes "should-be-entity"]),
    ("notation-decl", [
      .rule "(<!)(NOTATION)\\s+([\\p\x7bL\x7d:_][\\p\x7bL\x7d\\p\x7bN\x7d:_.-]*)" ""
        [(1, "punctuation.definition.tag.begin.xml"), (2, "keyword.notation.xml"),
         (3, "variable.notation.xml")] (.push [.written "a14"]) none]),
    ("parameter-entity", [
      .rule "(%)[\\p\x7bL\x7d:_][\\p\x7bL\x7d\\p\x7bN\x7d:_.-]*(;)"
        "constant.character.parameter-entity.xml"
        [(1, "punctuation.definition.constant.xml"), (2, "punctuation.definition.constant.xml")]
        .stay none]),
    ("should-be-entity", [
      .rule "&" "invalid.illegal.bad-ampersand.xml" [] .stay none,
      .rule "<" "invalid.illegal.missing-entity.xml" [] .stay none]),
    ("single-quoted-string", [
      .rule "'" "punctuation.definition.string.begin.xml" [] (.push [.written "a15"]) none]),
    ("tag-stuff", [
      .rule ("(?:\\s+|^)(?:([\\p\x7bL\x7d_][\\p\x7bL\x7d\\p\x7bN\x7d_.-]*)(:))?([\\p\x7bL\x7d_]" ++
             "[\\p\x7bL\x7d\\p\x7bN\x7d_.-]*)\\s*(=)") ""
        [(1, "entity.other.attribute-name.namespace.xml"),
         (2, "entity.other.attribute-name.xml punctuation.separator.namespace.xml"),
         (3, "entity.other.attribute-name.localname.xml"),
         (4, "punctuation.separator.key-value.xml")] .stay none,
      .rule "(?:\\s+|^)([\\p\x7bL\x7d\\p\x7bN\x7d:_.-]+)\\s*(=)" ""
        [(1, "invalid.illegal.bad-attribute-name.xml"),
         (2, "punctuation.separator.key-value.xml")] .stay none,
      .includes "double-quoted-string",
      .includes "single-quoted-string"])]

end PageFilters.Grammar.Bundled
