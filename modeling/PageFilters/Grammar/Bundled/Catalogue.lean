import PageFilters.Grammar.Bundled.Documents
import PageFilters.Grammar.Bundled.Programs
import PageFilters.Grammar.Bundled.Systems
import PageFilters.Grammar.Linking

/-!
# The bundled grammars

The catalogue lists the grammars in load order, with the file names and first
lines by which a document is recognized.  Seven of them come with their contexts.
The contexts of the others are not given here: these grammars are recognized, and
leave all text plain.  What is proved of programs holds of any grammars in their
place.
-/

namespace PageFilters.Grammar.Bundled

/-- A grammar known by name, file names and first line. -/
def named (name : String) (claims : List String) (firstLine : Option String) : Definition where
  name := name
  scope := ""
  claims := claims
  firstLine := firstLine
  contexts := [("main", [])]

def catalogue : List Definition := [
    named "Plain Text" ["txt"] none,
    named "ASP" ["asa"] none,
    named "HTML (ASP)" ["asp"] none,
    named "ActionScript" ["as"] none,
    named "AppleScript" ["applescript", "script editor"] (some "^#!.*(osascript)"),
    named "Batch File" ["bat", "cmd"] none,
    named "NAnt Build File" ["build"] none,
    named "C#" ["cs", "csx"] none,
    named "C++"
      ["cpp", "cc", "cp", "cxx", "c++", "C", "h", "hh", "hpp", "hxx", "h++", "inl", "ipp"]
      (some "-\\*- C\\+\\+ -\\*-"),
    named "C" ["c", "h"] (some "-[*]-( Mode:)? C -[*]-"),
    named "CSS" ["css", "css.erb", "css.liquid"] none,
    named "Clojure" ["clj"] none,
    named "D" ["d", "di"] (some "^#!.*\\bg?dmd\\b."),
    diff,
    named "Erlang" ["erl", "hrl", "Emakefile", "emakefile"] none,
    named "HTML (Erlang)" ["yaws"] none,
    named "Go" ["go"] (some "-[*]-( Mode:)? Go -[*]-"),
    named "Graphviz (DOT)" ["dot", "DOT", "gv"] none,
    named "Groovy" ["groovy", "gvy", "gradle"] none,
    named "HTML"
      ["html", "htm", "shtml", "xhtml", "inc", "tmpl", "tpl"] (some "(?i)<(!DOCTYPE\\s*)?html"),
    named "Haskell" ["hs"] none,
    named "Literate Haskell" ["lhs"] none,
    named "Java Server Page (JSP)" ["jsp"] none,
    named "Java" ["java", "bsh"] none,
    named "JavaDoc" [] none,
    javaProperties,
    json,
    named "JavaScript" ["js", "htc"] (some "^#!\\s*/.*\\b(node|js)\\b"),
    named "Regular Expressions (Javascript)" [] none,
    named "BibTeX" ["bib"] none,
    named "LaTeX Log" [] (some "This is (pdf|pdfe)?TeXk?, Version "),
    named "LaTeX" ["tex", "ltx"] none,
    named "TeX" ["sty", "cls"] none,
    named "Lisp" ["lisp", "cl", "clisp", "l", "mud", "el", "scm", "ss", "lsp", "fasl"] none,
    lua,
    named "Make Output" [] none,
    named "Makefile"
      ["make", "GNUmakefile", "makefile", "Makefile", "OCamlMakefile", "mak", "mk"]
      (some "^#!\\s*/usr/bin/make\\b"),
    named "Markdown" ["md", "mdown", "markdown", "markdn"] none,
    named "MultiMarkdown" [] (some "(?i)^format:\\s*complete\\s*$"),
    named "MATLAB" ["matlab"] none,
    named "OCaml" ["ml", "mli"] none,
    named "OCamllex" ["mll"] none,
    named "OCamlyacc" ["mly"] none,
    named "camlp4" [] none,
    named "Objective-C++" ["mm", "M", "h"] none,
    named "Objective-C" ["m", "h"] none,
    named "PHP Source" [] none,
    named "PHP"
      ["php", "php3", "php4", "php5", "php7", "phps", "phpt", "phtml"]
      (some "^(#!.*[^-]php[0-9]?|<\\?php)\\b"),
    pascal,
    named "Perl" ["pl", "pm", "pod", "t", "PL"] (some "^#!.*\\bperl\\b"),
    named "Python"
      ["py", "py3", "pyw", "pyi", "pyx", "pyx.in", "pxd", "pxd.in", "pxi", "pxi.in", "rpy",
      "cpy", "SConstruct", "Sconstruct", "sconstruct", "SConscript", "gyp", "gypi", "Snakefile",
      "wscript"] (some "^#!\\s*/.*\\bpython(\\d(\\.\\d)?)?\\b"),
    named "Regular Expressions (Python)" [] none,
    named "R Console" [] none,
    named "R" ["R", "r", "s", "S", "Rprofile"] none,
    named "Rd (R Documentation)" ["rd"] none,
    named "HTML (Rails)" ["rails", "rhtml", "erb", "html.erb"] none,
    named "JavaScript (Rails)" ["js.erb"] none,
    named "Ruby Haml" ["haml", "sass"] none,
    named "Ruby on Rails" ["rxml", "builder"] none,
    named "SQL (Rails)" ["erbsql", "sql.erb"] none,
    named "Regular Expression" ["re"] none,
    named "reStructuredText" ["rst", "rest"] none,
    named "Ruby"
      ["rb", "Appfile", "Appraisals", "Berksfile", "Brewfile", "capfile", "cgi", "Cheffile",
      "config.ru", "Deliverfile", "Fastfile", "fcgi", "Gemfile", "gemspec", "Guardfile", "irbrc",
      "jbuilder", "podspec", "prawn", "rabl", "rake", "Rakefile", "Rantfile", "rbx", "rjs",
      "ruby.rail", "Scanfile", "simplecov", "Snapfile", "thor", "Thorfile", "Vagrantfile"]
      (some "^#!\\s*/.*\\bj?ruby\\b"),
    named "Cargo Build Results" [] none,
    rust,
    named "SQL" ["sql", "ddl", "dml"] none,
    named "Scala" ["scala", "sbt"] none,
    named "Bourne Again Shell (bash)"
      ["sh", "bash", "zsh", "fish", ".bash_aliases", ".bash_completions", ".bash_functions",
      ".bash_login", ".bash_logout", ".bash_profile", ".bash_variables", ".bashrc", ".profile",
      ".textmate_init"]
      (some ("(?x)                     # ignore whitespace in this regex\n  ^                      " ++
         "# assert start of the line\n  \\#!                    # shebang token\n  .*          " ++
         "           # any characters\n  \\b(bash|zsh|sh|tcsh)\\b # \"bash\" or \"zsh\" or \"sh" ++
         "\" or \"tcsh\"\n  |                      # ... or ...\n  ^                      # ass" ++
         "ert start of the line\n  \\#                     # literal \"#\" character\n  \\s*   " ++
         "                 # any whitespace\n  -\\*-                   # literal \"-*-\" string" ++
         "\n  [^*]*                  # any characters except \"*\"\n  mode:                  # " ++
         "literal \"mode:\" string\n  \\s*                    # any whitespace\n  shell-script " ++
         "          # literal \"shell-script\" string\n  [^*]*                  # any character" ++
         "s except \"*\"\n  -\\*-                   # literal \"-*-\" string\n")),
    named "Shell-Unix-Generic" [] none,
    named "commands-builtin-shell-bash" [] none,
    named "HTML (Tcl)" ["adp"] none,
    named "Tcl" ["tcl"] none,
    named "Textile" ["textile"] (some "textile"),
    xml,
    named "YAML" ["yaml", "yml", "sublime-syntax"] (some "^%YAML( ?1.\\d+)?")]

end PageFilters.Grammar.Bundled

namespace PageFilters

def GrammarSet.bundled : GrammarSet :=
  GrammarSet.link Grammar.Bundled.catalogue

end PageFilters
