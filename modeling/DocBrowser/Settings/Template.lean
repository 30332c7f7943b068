import DocBrowser.Page.Render

/-!
A settings file that spells out the defaults, and what is said when it is written.
-/

namespace DocBrowser.Settings

def standardPath : Text := "pkgdocs.toml"

def templateLines : List String :=
  ["# pkgdocs Configuration File",
    "",
    "# Documentation server the index is fetched from",
    "base_url = \"http://localhost:8080\"",
    "",
    "# Path of the package index on that server.",
    "# Set base_url = \"\" to use this as a URL or a local file path on its own,",
    "# e.g. index_path = \"./shortcuts.json\" (gzip-compressed files work too)",
    "index_path = \"/resources/shortcuts.json\"",
    "",
    "# Give up on the index fetch after this many seconds",
    "timeout_secs = 30",
    "",
    "# Syntax-highlight type documentation",
    "highlight = true",
    "",
    "# syntect theme used for highlighting",
    "theme = \"base16-ocean.dark\""]

def template : Text := templateLines.flatMap fun line => line.toList ++ ['\n']

def created : Styled :=
  let item (text : String) : Styled := Page.line ["  ", .styled .blue "•", text]
  Page.line [.styled .green "✅", .plain (" Created " ++ standardPath)] ++
    Page.line ["\n", .styled .cyan "Configuration file created with defaults:"] ++
    item " base_url = \"http://localhost:8080\"" ++
    item " index_path = \"/resources/shortcuts.json\"" ++
    item " timeout_secs = 30" ++
    item " highlight = true" ++
    Page.line ["\n",
      .styled .cyan ("Edit " ++ standardPath ++ " to point at your documentation index.")]

end DocBrowser.Settings
