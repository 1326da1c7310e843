import PageFilters.Grammar.Definition

/-!
# A grammar of systems programs

The bundled grammar with the most contexts: declarations, types, generic
parameters, closures, macros and nested comments each have their own.
-/

namespace PageFilters.Grammar.Bundled

/-- Programs, down to the places where types and expressions part. -/
def rust : Definition where
  name := "Rust"
  scope := "source.rust"
  claims := ["rs"]
  bindings := [("identifier", "(?:(?:[\\p\x7bL\x7d][_\\p\x7bL\x7d\\p\x7bN\x7d]*|_[_\\p\x7bL\x7d\\p\x7bN\x7d]+)\\b)")]
  contexts := [
    ("a0", [
      .metaContentScope "meta.function-call.rust",
      .includes "attribute-call"]),
    ("a1", [
      .metaScope "meta.annotation.rust",
      .rule "(\x7b\x7bidentifier\x7d\x7d)(\\()" ""
        [(1, "variable.annotation.rust"),
         (2, "meta.annotation.parameters.rust meta.group.rust punctuation.section.group.begin.rust")]
        (.push [.written "a2"]) none,
      .rule "(\x7b\x7bidentifier\x7d\x7d)" "variable.annotation.rust" [] .stay none,
      .rule "=" "keyword.operator.rust" [] .stay none,
      .rule "\\]" "punctuation.section.group.end.rust" [] .pop none,
      .rule "[ \\t]+" "" [] .stay none,
      .includes "strings"]),
    ("a2", [
      .metaContentScope "meta.annotation.parameters.rust meta.group.rust",
      .rule "\\)"
        "meta.annotation.parameters.rust meta.group.rust punctuation.section.group.end.rust" []
        .pop none,
      .includes "attribute-call"]),
    ("a3", [
      .metaScope "meta.path.rust",
      .includes "no-path-identifiers",
      .rule "::" "punctuation.accessor.rust" [] (.set [.written "no-type-names"]) none]),
    ("a4", [
      .metaScope "comment.block.documentation.rust",
      .rule "\\*/" "punctuation.definition.comment.rust" [] .pop none,
      .includes "block-comments"]),
    ("a5", [
      .metaScope "comment.block.rust",
      .rule "\\*/" "punctuation.definition.comment.rust" [] .pop none,
      .includes "block-comments"]),
    ("a6", [
      .metaScope "string.quoted.double.rust",
      .metaPrototype false,
      .rule "\"" "punctuation.definition.string.end.rust" [] .pop none,
      .includes "escaped-byte"]),
    ("a7", [
      .metaScope "string.quoted.single.rust",
      .metaPrototype false,
      .rule "\\'" "punctuation.definition.string.end.rust" [] .pop none,
      .includes "escaped-byte"]),
    ("a8", [
      .metaScope "string.quoted.single.rust",
      .rule "\\'" "punctuation.definition.string.end.rust" [] .pop none,
      .includes "escaped-char"]),
    ("a9", [
      .metaScope "meta.function.closure.rust",
      .rule "(?=[\x7d;)\\]\\n])" "" [] .pop none,
      .includes "statements"]),
    ("a10", [
      .metaContentScope "meta.group.rust",
      .rule "\\)" "meta.group.rust punctuation.section.group.end.rust" [] .pop none,
      .rule "," "punctuation.separator.rust" [] .stay none,
      .rule "(\x7b\x7bidentifier\x7d\x7d)" "variable.parameter.rust" [] .stay none]),
    ("a11", [
      .metaContentScope "meta.group.rust",
      .rule "\\)" "meta.group.rust punctuation.section.group.end.rust" [] .pop none,
      .rule "," "punctuation.separator.rust" [] .stay none,
      .includes "type-any-identifier"]),
    ("a12", [
      .rule "(?=,|\\|)" "" [] .pop none,
      .includes "type-any-identifier"]),
    ("a13", [
      .metaScope "comment.line.documentation.rust",
      .rule "$\\n?" "" [] .pop none]),
    ("a14", [
      .metaScope "comment.line.double-slash.rust",
      .rule "$\\n?" "" [] .pop none]),
    ("a15", [
      .metaScope "meta.block.rust",
      .rule "(?=\\\x7d)" "" [] .pop none,
      .includes "statements"]),
    ("a16", [
      .metaScope "meta.function.parameters.rust",
      .includes "comments",
      .rule "(?=\\))" "" [] .pop none,
      .rule "\\(" "meta.group.rust punctuation.section.group.begin.rust" []
        (.push [.written "a17"]) none,
      .rule "(:)\\s*(\\()" ""
        [(1, "punctuation.separator.rust"),
         (2, "meta.group.rust punctuation.section.group.begin.rust")] (.push [.written "a18"])
        none,
      .rule "\\bself\\b" "variable.parameter.rust" [] .stay none,
      .rule "(\x7b\x7bidentifier\x7d\x7d)\\s*(:(?!:))" ""
        [(1, "variable.parameter.rust"), (2, "punctuation.separator.rust")] .stay none,
      .includes "type-any-identifier"]),
    ("a17", [
      .metaContentScope "meta.group.rust",
      .rule "\\)" "meta.group.rust punctuation.section.group.end.rust" [] .pop none,
      .rule "," "punctuation.separator.rust" [] .stay none,
      .rule "\x7b\x7bidentifier\x7d\x7d" "variable.parameter.rust" [] .stay none]),
    ("a18", [
      .metaContentScope "meta.group.rust",
      .rule "\\)" "meta.group.rust punctuation.section.group.end.rust" [] .pop none,
      .rule "," "punctuation.separator.rust" [] .stay none,
      .includes "type-any-identifier"]),
    ("a19", [
      .metaScope "string.quoted.double.raw.rust",
      .metaPrototype false,
      .rule "\"\\2" "punctuation.definition.string.end.rust" [] .pop none,
      .includes "format-escapes"]),
    ("a20", [
      .metaScope "string.quoted.double.rust",
      .metaPrototype false,
      .rule "\"" "punctuation.definition.string.end.rust" [] .pop none,
      .includes "escaped-char",
      .includes "format-escapes",
      .rule "(\\\\)$" "punctuation.separator.continuation.line.rust" [] .stay none]),
    ("a21", [
      .includes "strings",
      .rule "(?=\\S)" "" [] .pop none]),
    ("a22", [
      .rule ">" "punctuation.definition.generic.begin.rust" [] .pop none,
      .includes "generic-angles-contents"]),
    ("a23", [
      .metaScope "meta.group.rust",
      .rule "\\]" "punctuation.section.group.end.rust" [] .pop none,
      .rule ";" "punctuation.separator.rust" [] (.set [.written "a24"]) none,
      .includes "generic-angles-contents"]),
    ("a24", [
      .includes "integers",
      .rule "\\]" "punctuation.section.group.end.rust" [] .pop none,
      .rule "(?=\\S)" "" [] .pop none]),
    ("a25", [
      .metaScope "meta.impl.rust",
      .includes "comments",
      .rule "\\bfor\\b" "keyword.other.rust" [] (.set [.written "impl-identifier"]) none,
      .includes "type-any-identifier"]),
    ("a26", [
      .metaScope "meta.block.rust",
      .rule "(?=\\\x7d)" "" [] .pop none,
      .includes "macro-block-contents"]),
    ("a27", [
      .metaScope "meta.group.rust",
      .rule "(?=\\])" "" [] .pop none,
      .includes "macro-block-contents"]),
    ("a28", [
      .metaScope "meta.group.rust",
      .rule "(?=\\))" "" [] .pop none,
      .includes "macro-block-contents"]),
    ("a29", [
      .metaScope "meta.block.rust",
      .rule "\\\x7d" "punctuation.section.block.end.rust" [] .pop none,
      .includes "statements"]),
    ("a30", [
      .metaScope "meta.group.rust",
      .rule "\\)" "punctuation.section.group.end.rust" [] .pop none,
      .includes "statements"]),
    ("a31", [
      .metaScope "meta.group.rust",
      .rule "\\]" "punctuation.section.group.end.rust" [] .pop none,
      .includes "statements"]),
    ("a32", [
      .rule "(\\))[^*+]?([*+])" ""
        [(1, "punctuation.section.group.end.rust"), (2, "keyword.operator.rust")] .pop none,
      .includes "macro-metavariable"]),
    ("a33", [
      .metaScope "string.quoted.double.raw.rust",
      .metaPrototype false,
      .rule "\"\\2" "punctuation.definition.string.end.rust" [] .pop none]),
    ("a34", [
      .metaScope "string.quoted.double.raw.rust",
      .metaPrototype false,
      .rule "\"\\2" "punctuation.definition.string.end.rust" [] .pop none]),
    ("a35", [
      .metaScope "meta.function.return-type.rust",
      .rule "(?=\\s*\\\x7b|\\bwhere\\b)" "" [] .pop none,
      .rule "(?=<)" "" [] (.push [.written "generic-angles"]) none,
      .includes "type-any-identifier",
      .rule "\x7b\x7bidentifier\x7d\x7d" "" [] .stay none,
      .rule "(?=\\S)" "" [] .pop none]),
    ("a36", [
      .metaScope "meta.module.rust",
      .rule ";" "punctuation.terminator.rust" [] (.set [.written "after-operator"]) none,
      .includes "statements-block"]),
    ("a37", [
      .metaScope "meta.trait.rust",
      .includes "statements-block"]),
    ("a38", [
      .metaScope "meta.enum.rust",
      .includes "statements-block"]),
    ("a39", [
      .metaContentScope "meta.group.rust",
      .includes "comments",
      .includes "format-string",
      .includes "format-raw-string",
      .rule "(?=\\S)" "" [] (.set [.written "group-tail"]) none]),
    ("a40", [
      .metaContentScope "meta.group.rust",
      .includes "comments",
      .rule "," "" [] (.set [.written "a41"]) none]),
    ("a41", [
      .metaContentScope "meta.group.rust",
      .includes "format-string",
      .includes "format-raw-string",
      .rule "(?=\\S)" "" [] (.set [.written "group-tail"]) none]),
    ("a42", [
      .metaScope "meta.group.rust",
      .rule "\\]" "punctuation.section.group.end.rust" [] .pop none,
      .rule ";" "punctuation.separator.rust" [] .stay none,
      .includes "statements"]),
    ("a43", [
      .metaScope "string.quoted.double.rust",
      .metaPrototype false,
      .rule "\"" "punctuation.definition.string.end.rust" [] .pop none,
      .includes "escaped-char",
      .rule "(\\\\)$" "punctuation.separator.continuation.line.rust" [] .stay none]),
    ("a44", [
      .metaScope "meta.block.rust",
      .rule "(?=\\\x7d)" "" [] .pop none,
      .includes "comments",
      .rule "\\bpub\\b" "storage.modifier.rust" [] .stay none,
      .rule "\x7b\x7bidentifier\x7d\x7d(?=\\s*:)" "variable.other.member.rust" []
        (.push [.written "a45"]) none]),
    ("a45", [
      .rule ",|(?=\\\x7d)" "" [] .pop none,
      .includes "comments",
      .rule ":" "punctuation.separator.rust" [] .stay none,
      .includes "type-any-identifier"]),
    ("a46", [
      .metaScope "meta.struct.rust meta.generic.rust",
      .rule "(?=<)" "" [] (.push [.written "generic-angles"]) none,
      .rule "" "" [] (.set [.written "struct-body"]) none]),
    ("a47", [
      .metaScope "meta.group.rust",
      .includes "comments",
      .includes "type-any-identifier"]),
    ("a49", [
      .metaContentScope "meta.group.rust",
      .rule "\\)" "meta.group.rust punctuation.section.group.end.rust" [] (.set [.written "a50"])
        none,
      .includes "type-any-identifier"]),
    ("a50", [
      .includes "return-type",
      .rule "(?=\\S)" "" [] .pop none]),
    ("a51", [
      .rule "\\)" "punctuation.section.group.end.rust" [] .pop none,
      .includes "type-any-identifier"]),
    ("after-operator", [
      .rule "(?=<)" "" [] (.set [.written "generic-angles"]) none,
      .includes "try-closure"]),
    ("attribute-call", [
      .rule "\\)" "meta.function-call.rust meta.group.rust punctuation.section.group.end.rust" []
        .pop none,
      .rule "(\x7b\x7bidentifier\x7d\x7d)(\\()" "meta.function-call.rust"
        [(1, "variable.function.rust"),
         (2, "meta.group.rust punctuation.section.group.begin.rust")] (.push [.written "a0"]) none,
      .rule "," "punctuation.separator.rust" [] .stay none,
      .rule "=" "keyword.operator.rust" [] .stay none,
      .includes "strings"]),
    ("attributes", [
      .rule "(#!?)(\\[)" ""
        [(1, "punctuation.definition.annotation.rust"),
         (2, "punctuation.section.group.begin.rust")] (.push [.written "a1"]) none]),
    ("basic-identifiers", [
      .rule "\\b([\\p\x7bLu\x7d_][\\p\x7bLu\x7d\\p\x7bNd\x7d_]+)\\b" "constant.other.rust" []
        .stay none,
      .rule ("\\b(c_[\\p\x7bLl\x7d\\p\x7bNd\x7d_]+|[\\p\x7bLl\x7d_][\\p\x7bLl\x7d\\p\x7bNd\x7d_" ++
             "]*_t)\\b") "storage.type.rust" [] .stay none,
      .rule "(?=\x7b\x7bidentifier\x7d\x7d::)" "" [] (.push [.written "a3"]) none,
      .rule "\x7b\x7bidentifier\x7d\x7d(::)" "meta.path.rust" [(1, "punctuation.accessor.rust")]
        (.push [.written "no-type-names"]) none,
      .rule "(::)(?=\x7b\x7bidentifier\x7d\x7d)" "meta.path.rust punctuation.accessor.rust" []
        (.push [.written "no-type-names"]) none,
      .includes "no-path-identifiers"]),
    ("block", [
      .rule "\\\x7d" "meta.block.rust punctuation.section.block.end.rust" [] .pop none,
      .rule "\\\x7b" "punctuation.section.block.begin.rust" []
        (.push [.written "block-body", .written "try-closure"]) none]),
    ("block-body", [
      .metaScope "meta.block.rust",
      .rule "(?=\\\x7d)" "" [] .pop none,
      .includes "statements"]),
    ("block-comments", [
      .rule "/\\*[!\\*][^\\*/]" "punctuation.definition.comment.rust" [] (.push [.written "a4"])
        none,
      .rule "/\\*" "punctuation.definition.comment.rust" [] (.push [.written "a5"]) none]),
    ("byte", [
      .rule "(b)(')(?=([^'\\\\]|\\\\(x\\h\x7b2\x7d|n|r|t|0|\"|'|\\\\))')" ""
        [(1, "storage.type.string.rust"), (2, "punctuation.definition.string.begin.rust")]
        (.push [.written "a7"]) none]),
    ("byte-string", [
      .rule "(b)(\")" ""
        [(1, "storage.type.string.rust"), (2, "punctuation.definition.string.begin.rust")]
        (.push [.written "a6"]) none]),
    ("char", [
      .rule "'(?=([^'\\\\]|\\\\(x\\h\x7b2\x7d|n|r|t|0|\"|'|\\\\|u\\\x7b\\h\x7b1,6\x7d\\\x7d))')"
        "punctuation.definition.string.begin.rust" [] (.push [.written "a8"]) none]),
    ("chars", [
      .includes "char",
      .includes "byte"]),
    ("closure", [
      .metaContentScope "meta.function.closure.rust",
      .rule "\\|" "punctuation.section.parameters.begin.rust" []
        (.set [.written "closure-return", .written "closure-parameters"]) none]),
    ("closure-body", [
      .rule "(?=\\\x7b)" "" [] (.set [.written "closure-explicit-body"]) none,
      .rule "(?=\\S)" "" [] (.set [.written "a9"]) none]),
    ("closure-explicit-body", [
      .metaScope "meta.function.closure.rust",
      .includes "block"]),
    ("closure-parameters", [
      .metaScope "meta.function.parameters.rust",
      .rule "(?=[\x7d;)\\]\\n])" "" [] .pop none,
      .rule "," "punctuation.separator.rust" [] .stay none,
      .rule "\\(" "meta.group.rust punctuation.section.group.begin.rust" []
        (.push [.written "a10"]) none,
      .rule "(:)\\s*(\\()" ""
        [(1, "punctuation.separator.rust"),
         (2, "meta.group.rust punctuation.section.group.begin.rust")] (.push [.written "a11"])
        none,
      .rule "\\|" "punctuation.section.parameters.end.rust" [] .pop none,
      .rule "\\bself\\b" "variable.parameter.rust" [] .stay none,
      .rule "(\x7b\x7bidentifier\x7d\x7d)\\s*(?:(:(?!:))|(?=\\||,))" ""
        [(1, "variable.parameter.rust"), (2, "punctuation.separator.rust")]
        (.push [.written "a12"]) none,
      .rule "&" "keyword.operator.rust" [] .stay none,
      .rule "\\b(mut|ref)\\b" "storage.modifier.rust" [] .stay none,
      .rule "'\x7b\x7bidentifier\x7d\x7d(?!\\')\\b" "storage.modifier.lifetime.rust" [] .stay none]),
    ("closure-return", [
      .metaContentScope "meta.function.closure.rust",
      .includes "return-type",
      .rule "(?=\\S)" "" [] (.set [.written "closure-body"]) none]),
    ("comments", [
      .includes "block-comments",
      .rule "//[!/]" "punctuation.definition.comment.rust" [] (.push [.written "a13"]) none,
      .rule "//" "punctuation.definition.comment.rust" [] (.push [.written "a14"]) none]),
    ("escaped-byte", [
      .rule "\\\\(x\\h\x7b2\x7d|n|r|t|0|\"|'|\\\\)" "constant.character.escape.rust" [] .stay none]),
    ("escaped-char", [
      .rule "\\\\(x\\h\x7b2\x7d|n|r|t|0|\"|'|\\\\|u\\\x7b\\h\x7b1,6\x7d\\\x7d)"
        "constant.character.escape.rust" [] .stay none]),
    ("floats", [
      .rule "\\b((?:\\d[\\d_]*)?\\d\\.)(\\d[\\d_]*(?:[eE][+-]?[\\d_]*\\d[\\d_]*)?)(f32|f64)?" ""
        [(1, "constant.numeric.float.rust"), (2, "constant.numeric.float.rust"),
         (3, "storage.type.numeric.rust")] .stay none,
      .rule "\\b((?:\\d[\\d_]*)?\\d\\.)(?!\\.)" "constant.numeric.float.rust" [] .stay none,
      .rule "\\b(\\d[\\d_]*)(f32|f64)\\b" ""
        [(1, "constant.numeric.float.rust"), (2, "storage.type.numeric.rust")] .stay none]),
    ("fn-body", [
      .metaScope "meta.function.rust",
      .rule "\\\x7d" "meta.block.rust punctuation.section.block.end.rust" [] .pop none,
      .rule "\\\x7b" "punctuation.section.block.begin.rust" [] (.push [.written "a15"]) none]),
    ("fn-definition", [
      .metaScope "meta.function.rust",
      .includes "comments",
      .rule "\x7b\x7bidentifier\x7d\x7d" "entity.name.function.rust" []
        (.set [.written "fn-generic"]) none]),
    ("fn-generic", [
      .includes "comments",
      .rule "(?=<)" "" [] (.push [.written "generic-angles"]) none,
      .rule "(?=\\()" "" [] (.set [.written "fn-parameters"]) none,
      .rule "(?=\\S)" "" [] .pop none]),
    ("fn-parameters", [
      .metaScope "meta.function.rust",
      .includes "comments",
      .rule "\\)" "meta.function.parameters.rust punctuation.section.parameters.end.rust" []
        (.set [.written "fn-return"]) none,
      .rule "\\(" "punctuation.section.parameters.begin.rust" [] (.push [.written "a16"]) none]),
    ("fn-return", [
      .metaScope "meta.function.rust",
      .includes "comments",
      .rule "(?=\\\x7b)" "" [] (.set [.written "fn-body"]) none,
      .rule "(?=\\bwhere\\b)" "" [] (.set [.written "fn-where"]) none,
      .includes "return-type",
      .rule "(?=\\S)" "" [] .pop none]),
    ("fn-where", [
      .metaScope "meta.function.rust",
      .includes "comments",
      .rule "(?=\\\x7b)" "" [] (.set [.written "fn-body"]) none,
      .rule "\\bfor\\b" "keyword.other.rust" [] .stay none,
      .rule "\\bwhere\\b" "keyword.other.rust" [] .stay none,
      .includes "type-any-identifier",
      .rule ":" "punctuation.separator.rust" [] .stay none]),
    ("format-escapes", [
      .rule "\\\x7b\\\x7b|\\\x7d\\\x7d" "constant.character.escape.rust" [] .stay none,
      .rule ("(?x)                      # Spec from http://doc.rust-lang.org/std/fmt/\n\\\x7b\n" ++
             "  (\\d+|\x7b\x7bidentifier\x7d\x7d)?\n  (\n    :                     # format_spe" ++
             "c delimiter\n    (.?[<>^])?            # [[fill]align]\n    [+-]?                " ++
             " # [sign]\n    \\#?                   # ['#']\n    0?                    # [0]\n " ++
             "   (\\d\\$?)?              # [width]\n    (\\.(\\d\\$?|\\*)?)?      # ['.' precis" ++
             "ion]\n    (\\?|\x7b\x7bidentifier\x7d\x7d)?  # [type]\n  )?\n\\\x7d")
        "constant.other.placeholder.rust" [] .stay none]),
    ("format-raw-string", [
      .rule "(r)(#*)\"" ""
        [(1, "storage.type.string.rust"), (2, "punctuation.definition.string.begin.rust")]
        (.push [.written "a19"]) none]),
    ("format-string", [
      .rule "\"" "punctuation.definition.string.begin.rust" [] (.push [.written "a20"]) none]),
    ("generic-angles", [
      .metaScope "meta.generic.rust",
      .includes "comments",
      .rule "->" "punctuation.separator.generic.rust" []
        (.push [.written "generic-angles-contents"]) none,
      .rule ">" "punctuation.definition.generic.end.rust" [] .pop none,
      .rule "<" "punctuation.definition.generic.begin.rust" []
        (.push [.written "generic-angles-contents"]) none,
      .rule "\\S" "invalid.illegal.rust" [] .pop none]),
    ("generic-angles-contents", [
      .includes "comments",
      .rule "\\bextern\\b" "keyword.other.rust" [] (.push [.written "a21"]) none,
      .rule "(?=>|[^ \\t\\n\\$=<_+'(),&:\\[\\]\\p\x7bL\x7d\\p\x7bN\x7d])" "" [] .pop none,
      .rule "<" "punctuation.definition.generic.begin.rust" [] (.push [.written "a22"]) none,
      .rule "\\[" "punctuation.section.group.begin.rust" [] (.push [.written "a23"]) none,
      .includes "type-any-identifier",
      .rule ":" "punctuation.separator.rust" [] .stay none,
      .rule "\\+" "keyword.operator.rust" [] .stay none]),
    ("group", [
      .rule "\\)" "meta.group.rust punctuation.section.group.end.rust" [] .pop none,
      .rule "\\(" "punctuation.section.group.begin.rust" []
        (.push [.written "group-body", .written "try-closure"]) none]),
    ("group-body", [
      .metaScope "meta.group.rust",
      .rule "(?=\\))" "" [] .pop none,
      .includes "statements"]),
    ("group-tail", [
      .metaScope "meta.group.rust",
      .rule "\\)" "punctuation.section.group.end.rust" [] .pop none,
      .includes "statements"]),
    ("impl-body", [
      .metaScope "meta.impl.rust",
      .includes "statements-block"]),
    ("impl-definition", [
      .metaScope "meta.impl.rust",
      .includes "comments",
      .rule "(?=<)" "" [] (.set [.written "impl-for", .written "impl-generic"]) none,
      .rule "(?=\\S)" "" [] (.set [.written "impl-for"]) none]),
    ("impl-for", [
      .rule "(?=\\s*(?:::|\x7b\x7bidentifier\x7d\x7d|\\$|<)+(<.*?>)?\\s+for\\s+)" "" []
        (.set [.written "a25"]) none,
      .rule "" "" [] (.set [.written "impl-identifier"]) none]),
    ("impl-generic", [
      .metaScope "meta.impl.rust",
      .rule "(?=<)" "" [] (.push [.written "generic-angles"]) none,
      .rule "" "" [] .pop none]),
    ("impl-identifier", [
      .metaContentScope "meta.impl.rust",
      .includes "comments",
      .rule "(?=\\\x7b)" "" [] (.set [.written "impl-body"]) none,
      .rule "(?=\\bwhere\\b)" "" [] (.set [.written "impl-where"]) none,
      .rule "\x7b\x7bidentifier\x7d\x7d" "entity.name.impl.rust" [] .stay none,
      .rule "(?=<)" "" [] (.push [.written "generic-angles"]) none,
      .rule "&" "keyword.operator.rust" [] .stay none,
      .rule "\\b(mut|ref)\\b" "storage.modifier.rust" [] .stay none,
      .rule "'\x7b\x7bidentifier\x7d\x7d(?!\\')\\b" "storage.modifier.lifetime.rust" [] .stay none]),
    ("impl-where", [
      .metaScope "meta.impl.rust",
      .includes "comments",
      .rule "(?=\\\x7b)" "" [] (.set [.written "impl-body"]) none,
      .rule "\\bfor\\b" "keyword.other.rust" [] .stay none,
      .rule "\\bwhere\\b" "keyword.other.rust" [] .stay none,
      .includes "type-any-identifier",
      .rule ":" "punctuation.separator.rust" [] .stay none]),
    ("integers", [
      .rule "\\b(\\d[\\d_]*)(i8|i16|i32|i64|isize|u8|u16|u32|u64|usize)?\\b" ""
        [(1, "constant.numeric.integer.decimal.rust"), (2, "storage.type.numeric.rust")] .stay
        none,
      .rule "\\b(0x[\\h_]*\\h[\\h_]*)(i8|i16|i32|i64|isize|u8|u16|u32|u64|usize)?\\b" ""
        [(1, "constant.numeric.integer.hexadecimal.rust"), (2, "storage.type.numeric.rust")] .stay
        none,
      .rule "\\b(0o[0-7_]*[0-7][0-7_]*)(i8|i16|i32|i64|isize|u8|u16|u32|u64|usize)?\\b" ""
        [(1, "constant.numeric.integer.octal.rust"), (2, "storage.type.numeric.rust")] .stay none,
      .rule "\\b(0b[0-1_]*[0-1][0-1_]*)(i8|i16|i32|i64|isize|u8|u16|u32|u64|usize)?\\b" ""
        [(1, "constant.numeric.integer.binary.rust"), (2, "storage.type.numeric.rust")] .stay none]),
    ("macro-block", [
      .metaScope "meta.macro.rust",
      .rule "\\\x7d" "meta.block.rust punctuation.section.block.end.rust" [] .pop none,
      .rule "[\\])]" "punctuation.section.group.end.rust" [] .pop none,
      .rule "\\\x7b" "punctuation.section.block.begin.rust" [] (.push [.written "a26"]) none,
      .rule "\\[" "punctuation.section.group.begin.rust" [] (.push [.written "a27"]) none,
      .rule "\\(" "punctuation.section.group.begin.rust" [] (.push [.written "a28"]) none]),
    ("macro-block-contents", [
      .includes "comments",
      .rule "\\(" "punctuation.section.group.begin.rust" [] (.push [.written "macro-matcher"])
        none,
      .rule ";" "" [] .stay none]),
    ("macro-match-operator", [
      .rule "=>" "keyword.operator.rust" [] .stay none,
      .rule "\\\x7b" "punctuation.section.block.begin.rust" [] (.set [.written "a29"]) none,
      .rule "\\(" "punctuation.section.group.begin.rust" [] (.set [.written "a30"]) none,
      .rule "\\[" "punctuation.section.group.begin.rust" [] (.set [.written "a31"]) none]),
    ("macro-matcher", [
      .metaScope "meta.group.rust",
      .metaPrototype false,
      .rule "\\)" "punctuation.section.group.end.rust" [] (.set [.written "macro-match-operator"])
        none,
      .rule "(\\$)(\\()" ""
        [(1, "keyword.operator.rust"), (2, "punctuation.section.group.begin.rust")]
        (.push [.written "a32"]) none,
      .includes "macro-metavariable"]),
    ("macro-metavariable", [
      .rule "(\\$\x7b\x7bidentifier\x7d\x7d)(:)(ident|path|expr|ty|pat|stmt|block|item|meta|tt)"
        ""
        [(1, "variable.parameter.rust"), (2, "punctuation.separator.rust"),
         (3, "storage.type.rust")] .stay none]),
    ("main", [
      .includes "statements"]),
    ("no-path-identifiers", [
      .rule "\\b(self)\\b" "variable.language.rust" [] .stay none,
      .rule "\\b(super)\\b" "keyword.other.rust" [] .stay none]),
    ("no-type-names", [
      .includes "comments",
      .includes "basic-identifiers",
      .rule "\x7b\x7bidentifier\x7d\x7d" "" [] .stay none,
      .rule "(?=<)" "" [] (.push [.written "generic-angles"]) none,
      .rule "" "" [] .pop none]),
    ("numbers", [
      .includes "floats",
      .includes "integers"]),
    ("prototype", [
      .metaPrototype false,
      .rule "\\$\x7b\x7bidentifier\x7d\x7d" "variable.other.rust" [] .stay none]),
    ("raw-byte-string", [
      .rule "(br)(#*)\"" ""
        [(1, "storage.type.string.rust"), (2, "punctuation.definition.string.begin.rust")]
        (.push [.written "a33"]) none]),
    ("raw-string", [
      .rule "(r)(#*)\"" ""
        [(1, "storage.type.string.rust"), (2, "punctuation.definition.string.begin.rust")]
        (.push [.written "a34"]) none]),
    ("return-type", [
      .rule "->" "punctuation.separator.rust" [] (.push [.written "a35"]) none]),
    ("statements", [
      .rule "('\x7b\x7bidentifier\x7d\x7d)\\s*(:)" ""
        [(1, "entity.name.label.rust"), (2, "punctuation.separator.rust")] .stay none,
      .rule "'\x7b\x7bidentifier\x7d\x7d(?!\\')\\b" "storage.modifier.lifetime.rust" [] .stay none,
      .rule "\\b(?:(pub)\\s+)?\\b(mod)\\s+(\x7b\x7bidentifier\x7d\x7d)\\b" ""
        [(1, "storage.modifier.rust"), (2, "storage.type.module.rust"),
         (3, "entity.name.module.rust")] (.push [.written "a36"]) none,
      .rule "\\b(\x7b\x7bidentifier\x7d\x7d)\\s*(=)\\s*(?=\\|)" ""
        [(1, "entity.name.function.rust"), (2, "keyword.operator.rust")]
        (.push [.written "closure"]) none,
      .rule "\\b(?:(pub)\\s+)?\\b(fn)\\s+(?=\x7b\x7bidentifier\x7d\x7d)" "meta.function.rust"
        [(1, "storage.modifier.rust"), (2, "storage.type.function.rust")]
        (.push [.written "fn-definition"]) none,
      .rule "\\b(?:(pub)\\s+)?(struct)\\s+" "meta.struct.rust"
        [(1, "storage.modifier.rust"), (2, "storage.type.struct.rust")]
        (.push [.written "struct-identifier"]) none,
      .rule "\\b(?:(pub)\\s+)?(type)\\s+(\x7b\x7bidentifier\x7d\x7d)\\b" ""
        [(1, "storage.modifier.rust"), (2, "storage.type.type.rust"),
         (3, "entity.name.type.rust")] .stay none,
      .rule "\\b(?:(pub)\\s+)?(trait)\\s+(\x7b\x7bidentifier\x7d\x7d)\\b" ""
        [(1, "storage.modifier.rust"), (2, "storage.type.trait.rust"),
         (3, "entity.name.trait.rust")] (.push [.written "a37"]) none,
      .rule "\\bimpl\\b" "storage.type.impl.rust" [] (.push [.written "impl-definition"]) none,
      .rule "\\b(?:(pub)\\s+)?(enum)\\s+(\x7b\x7bidentifier\x7d\x7d)\\b" ""
        [(1, "storage.modifier.rust"), (2, "storage.type.enum.rust"),
         (3, "entity.name.enum.rust")] (.push [.written "a38"]) none,
      .rule "\\b(let|const|static)\\b" "storage.type.rust" [] .stay none,
      .rule "\\bfn\\b" "storage.type.function.rust" [] .stay none,
      .rule "\\bmod\\b" "storage.type.module.rust" [] .stay none,
      .rule "\\bstruct\\b" "storage.type.struct.rust" [] .stay none,
      .rule "\\bimpl\\b" "storage.type.impl.rust" [] .stay none,
      .rule "\\benum\\b" "storage.type.enum.rust" [] .stay none,
      .rule "\\btype\\b" "storage.type.type.rust" [] .stay none,
      .rule "\\btrait\\b" "storage.type.trait.rust" [] .stay none,
      .rule "\\b(mut|pub|unsafe|move|ref)\\b" "storage.modifier.rust" [] .stay none,
      .rule "\\b(crate|extern|use|where)\\b" "keyword.other.rust" [] .stay none,
      .rule "\\b(break|else|for|if|loop|match|while|continue)\\b" "keyword.control.rust" [] .stay
        none,
      .rule "\\breturn\\b" "keyword.control.rust" [] (.push [.written "after-operator"]) none,
      .rule "\\b(as|in|box)\\b" "keyword.operator.rust" [] .stay none,
      .rule ("\\b(virtual|proc|alignof|become|offsetof|priv|pure|sizeof|typeof|unsized|yield|do" ++
             "|abstract|final|override|macro)\\b") "invalid.illegal.rust" [] .stay none,
      .rule "\\b(true|false)\\b" "constant.language.rust" [] .stay none,
      .includes "type",
      .rule "\\b(macro_rules!)\\s+([\\p\x7bL\x7d_][\\p\x7bL\x7d\\p\x7bN\x7d_]*)\\b" ""
        [(1, "support.function.rust"), (2, "entity.name.macro.rust")]
        (.push [.written "macro-block"]) none,
      .includes "comments",
      .includes "strings",
      .includes "chars",
      .rule "\\b[\\p\x7bLl\x7d_][\\p\x7bLl\x7d\\p\x7bNd\x7d_]*(?=\\()" "support.function.rust" []
        .stay none,
      .rule "\\b((?:format|print|println)!)\\s*(\\()" ""
        [(1, "support.macro.rust"), (2, "meta.group.rust punctuation.section.group.begin.rust")]
        (.push [.written "a39"]) none,
      .rule "\\b((?:write|writeln)!)\\s*(\\()" ""
        [(1, "support.macro.rust"), (2, "meta.group.rust punctuation.section.group.begin.rust")]
        (.push [.written "a40"]) none,
      .rule "\\b[\\p\x7bLl\x7d_][\\p\x7bLl\x7d\\p\x7bNd\x7d_]*!(?=\\s*(\\(|\\\x7b|\\[))"
        "support.macro.rust" [] .stay none,
      .rule ("\\b(Copy|Send|Sized|Sync|Drop|Fn|FnMut|FnOnce|Box|ToOwned|Clone|PartialEq|Partial" ++
             "Ord|Eq|Ord|AsRef|AsMut|Into|From|Default|Iterator|Extend|IntoIterator|DoubleEnded" ++
             "Iterator|ExactSizeIterator|Option|Some|None|Result|Ok|Err|SliceConcatExt|String|T" ++
             "oString|Vec)\\b") "support.type.rust" [] .stay none,
      .includes "basic-identifiers",
      .includes "attributes",
      .includes "numbers",
      .rule "(?=\\\x7b)" "" [] (.push [.written "block"]) none,
      .rule "(?=\\()" "" [] (.push [.written "group"]) none,
      .rule "\\[" "punctuation.section.group.begin.rust" [] (.push [.written "a42"]) none,
      .includes "return-type",
      .rule "=>" "keyword.operator.rust" [] (.push [.written "after-operator"]) none,
      .rule "=" "keyword.operator.rust" [] (.push [.written "after-operator"]) none,
      .rule ";" "punctuation.terminator.rust" [] (.push [.written "after-operator"]) none,
      .rule "[:,]" "punctuation.separator.rust" [] (.push [.written "after-operator"]) none,
      .rule "\\.\\.\\.|\\.\\.|[-=<>&|!~@?+*/%^'#$]|\\b_\\b" "keyword.operator.rust" [] .stay none]),
    ("statements-block", [
      .includes "comments",
      .rule "\\\x7d" "meta.block.rust punctuation.section.block.end.rust" [] .pop none,
      .rule "\\\x7b" "punctuation.section.block.begin.rust" []
        (.push [.written "block-body", .written "try-closure"]) none]),
    ("string", [
      .rule "\"" "punctuation.definition.string.begin.rust" [] (.push [.written "a43"]) none]),
    ("strings", [
      .includes "byte-string",
      .includes "raw-byte-string",
      .includes "string",
      .includes "raw-string"]),
    ("struct-body", [
      .metaScope "meta.struct.rust",
      .includes "comments",
      .rule "(?=\\()" "" [] (.set [.written "struct-tuple"]) none,
      .rule "(?=\\\x7b)" "" [] (.set [.written "struct-classic"]) none,
      .rule "(?=;)" "" [] .pop none]),
    ("struct-classic", [
      .metaScope "meta.struct.rust",
      .rule "\\\x7d" "meta.block.rust punctuation.section.block.end.rust" [] .pop none,
      .rule "\\\x7b" "punctuation.section.block.begin.rust" [] (.push [.written "a44"]) none]),
    ("struct-identifier", [
      .rule "\x7b\x7bidentifier\x7d\x7d(?=<)" "entity.name.struct.rust" [] (.set [.written "a46"])
        none,
      .rule "\x7b\x7bidentifier\x7d\x7d" "entity.name.struct.rust" []
        (.set [.written "struct-body"]) none]),
    ("struct-tuple", [
      .metaScope "meta.struct.rust",
      .rule "\\)" "punctuation.section.group.end.rust" [] .pop none,
      .rule "\\(" "punctuation.section.group.begin.rust" [] (.push [.written "a47"])
        (some [.rule "(?=\\))" "" [] .pop none])]),
    ("try-closure", [
      .rule "\\s*(?=\\|)" "" [] (.set [.written "closure"]) none,
      .rule "(?=\\S)" "" [] .pop none]),
    ("type", [
      .rule "\x7b\x7bidentifier\x7d\x7d(?=<)" "" [] (.push [.written "generic-angles"]) none,
      .rule "\\b(Self|i8|i16|i32|i64|isize|u8|u16|u32|u64|usize|f32|f64|bool|char|str)\\b"
        "storage.type.rust" [] .stay none]),
    ("type-any-identifier", [
      .rule "&" "keyword.operator.rust" [] .stay none,
      .rule "\\b(mut|ref)\\b" "storage.modifier.rust" [] .stay none,
      .rule "\\b(fn)\\b(\\()" ""
        [(1, "storage.type.function.rust"),
         (2, "meta.group.rust punctuation.section.group.begin.rust")] (.push [.written "a49"])
        none,
      .rule "'\x7b\x7bidentifier\x7d\x7d(?!\\')\\b" "storage.modifier.lifetime.rust" [] .stay none,
      .rule ("\\b([\\p\x7bLu\x7d]|_*[\\p\x7bLu\x7d][\\p\x7bL\x7d\\p\x7bN\x7d_]*[\\p\x7bLl\x7d][" ++
             "\\p\x7bL\x7d\\p\x7bN\x7d_]*)\\b(::)") "meta.path.rust storage.type.rust"
        [(1, "storage.type.rust"), (2, "punctuation.accessor.rust")] .stay none,
      .rule "\x7b\x7bidentifier\x7d\x7d(::)" "meta.path.rust" [(1, "punctuation.accessor.rust")]
        .stay none,
      .rule "(::)(?=\x7b\x7bidentifier\x7d\x7d)" "meta.path.rust punctuation.accessor.rust" []
        .stay none,
      .rule "(?=<)" "" [] (.push [.written "generic-angles"]) none,
      .rule "\\(" "punctuation.section.group.begin.rust" [] (.push [.written "a51"]) none,
      .includes "type",
      .rule "\\b_\\b" "keyword.operator.rust" [] .stay none])]

end PageFilters.Grammar.Bundled
