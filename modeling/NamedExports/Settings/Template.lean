import NamedExports.Text.Cut

/-!
# The default configuration file

The text of a new configuration file.  Every setting in it is commented out.
-/

namespace NamedExports.Settings

/-- The lines of a new configuration file. -/
def templateLines : List String :=
  ["# cjs-exports configuration",
    "#",
    "# Every setting is optional; command-line flags and CJS_EXPORTS_* environment",
    "# variables override what is set here.",
    "",
    "# Directory import specifiers are resolved from",
    "# build_dir = \".\"",
    "",
    "# Evaluation mode: \"production\" or \"development\" (sets NODE_ENV)",
    "# mode = \"production\"",
    "",
    "# Load allow-listed packages in node when static scanning finds no exports",
    "# fallback_enabled = true",
    "# fallback_packages = [\"typescript\", \"he\"]",
    "# node_binary = \"node\"",
    "",
    "# Module resolution",
    "# main_fields = [\"browser\", \"module\", \"main\"]",
    "# condition_names = [\"browser\", \"require\", \"default\"]",
    "# extensions = [\"js\", \"cjs\", \"json\"]",
    "",
    "# Scan tasks allowed per resolution before the re-export graph is treated as cyclic",
    "# max_hops = 10000",
    "",
    "# Worker threads when resolving several specifiers",
    "# threads = 8",
    "",
    "# Output: \"text\" or \"json\"",
    "# output_format = \"text\"",
    "# output_file = \"exports.json\"",
    "# use_colors = true",
    ""]

/-- The text of a new configuration file. -/
def template : String :=
  String.ofList (Text.joinWith '\n' (templateLines.map String.toList))

end NamedExports.Settings
