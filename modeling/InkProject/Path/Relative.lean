import InkProject.Path.Basic
set_option autoImplicit false

namespace InkProject.Path

def withSlashes (text : String) : String :=
  String.ofList (text.toList.map fun char => if char = '\\' then '/' else char)

def projectRelative? (full root : Path) : Option String :=
  (full.relativeTo? root).map fun rest => withSlashes rest.display

end InkProject.Path
