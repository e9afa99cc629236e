namespace ClassMetrics.Settings

/-- A settings file to start from, with every setting at its default. -/
def defaultText : String :=
  String.join <| List.map (· ++ "\n") [
    "# jsca configuration",
    "#",
    "# Place this file at jsca.toml or .jsca/jsca.toml next to the analyzed",
    "# project. Every value can be overridden with JSCA_ environment variables,",
    "# e.g. JSCA_COUPLING__BREAK_ON_CBO=10.",
    "",
    "# Glob patterns of class files to skip.",
    "exclude = []",
    "",
    "[coupling]",
    "# Internal-name prefixes of platform classes ignored by the coupling graph.",
    "platform_prefixes = [\"java/\"]",
    "root_class = \"java/lang/Object\"",
    "# Fail when the highest coupling score exceeds this value (0 disables).",
    "break_on_cbo = 0",
    "# Fail when any pairwise coupling score exceeds this value (0 disables).",
    "break_on_pair_cbo = 0",
    "",
    "[cohesion]",
    "# Fail when the highest LCOM exceeds this value (0 disables).",
    "break_on_lcom = 0",
    "",
    "[cycles]",
    "break_on_cycle = false",
    "jdeps = \"jdeps\"",
    "",
    "[output]",
    "format = \"text\"",
    "# dir = \"target/sca\""
  ]

end ClassMetrics.Settings
