import DroidRoots.Options
import DroidRoots.Proofs.Outcomes

/-! Command lines that are continued. A command line that can be read has a value for each of its
options and no separator, so what is added at its end is read by itself and goes over what was given
before. -/

namespace DroidRoots.Options

variable {given last : Given} {args : List Argument}

structure Given.Gives (given : Given) (o : Options) : Prop where
  leftOver : given.leftOver = false
  classHierarchy : given.values.lookup .classHierarchy = some o.classHierarchy
  callGraph : given.values.lookup .callGraph = some o.callGraph
  settings : (given.values.lookup .settings).getD "config/settings.yaml" = o.settings
  catalog : given.values.lookup .catalog = o.catalog
  out : given.values.lookup .out = o.out
  logLevel : (given.values.lookup .logLevel).getD "INFO" = o.logLevel

end DroidRoots.Options
