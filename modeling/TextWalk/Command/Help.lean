import TextWalk.Command.Name

namespace TextWalk.Command

def unlines (lines : List String) : String := String.join (lines.map (· ++ "\n"))

def globalFlagLines : List String :=
  ["      --content-type string   MIME type or charset label of the input, e.g. \"latin1\". Sniffed when empty.",
   "      --normalize             Apply Unicode NFC normalization before scanning.",
   "  -v, --verbose count         Set verbosity."]

def rootHelpLine : String := "  -h, --help                  help for scanbuf"

def Name.summary : Name → List String
  | root => ["Walk text content rune by rune and report what the cursor finds"]
  | find => ["Print the line:column of every occurrence of a character."]
  | fields => ["Print every blank-separated field with the line:column it starts at."]
  | quoted => ["Print every quoted run, quotes included, with the line:column it starts at."]
  | help =>
    ["Help provides help for any command in the application.",
     "Simply type scanbuf help [path to command] for full details."]
  | completion =>
    ["Generate the autocompletion script for scanbuf for the specified shell.",
     "See each sub-command's help for details on how to use the generated script."]

def rootUsage (withHelp : Bool) : List String :=
  let lines := globalFlagLines
  ["Usage:",
   "  scanbuf [command]",
   "",
   "Available Commands:",
   "  completion  Generate the autocompletion script for the specified shell",
   "  fields      Print every blank-separated field with the line:column it starts at.",
   "  find        Print the line:column of every occurrence of a character.",
   "  help        Help about any command",
   "  quoted      Print every quoted run, quotes included, with the line:column it starts at.",
   "",
   "Flags:"] ++
  -- Flags go by name, so that the line of the help flag comes second.
  lines.take 1 ++ (if withHelp then [rootHelpLine] else []) ++ lines.drop 1 ++
  ["",
   "Use \"scanbuf [command] --help\" for more information about a command."]

def leafUsage (pattern : String) (flagLines : List String) : List String :=
  ["Usage:", "  scanbuf " ++ pattern, "", "Flags:"] ++ flagLines ++ ["", "Global Flags:"] ++
    globalFlagLines

def Name.usage : Name → List String
  | root => rootUsage true
  | find => leafUsage "find <char> [file] [flags]" ["  -h, --help   help for find"]
  | fields =>
    leafUsage "fields [file] [flags]"
      ["  -h, --help                help for fields",
       "      --separators string   Extra characters that end a field, on top of blanks."]
  | quoted =>
    leafUsage "quoted <quote> [file] [flags]"
      ["  -h, --help   help for quoted",
       "      --raw    Do not treat backslash-escaped quotes as content."]
  | help => leafUsage "help [command] [flags]" ["  -h, --help   help for help"]
  | completion =>
    ["Usage:",
     "  scanbuf completion [command]",
     "",
     "Available Commands:",
     "  bash        Generate the autocompletion script for bash",
     "  fish        Generate the autocompletion script for fish",
     "  powershell  Generate the autocompletion script for powershell",
     "  zsh         Generate the autocompletion script for zsh",
     "",
     "Flags:",
     "  -h, --help   help for completion",
     "",
     "Global Flags:"] ++
    globalFlagLines ++
    ["",
     "Use \"scanbuf completion [command] --help\" for more information about a command."]

def Name.page (n : Name) : String := unlines (n.summary ++ [""] ++ n.usage)

end TextWalk.Command
