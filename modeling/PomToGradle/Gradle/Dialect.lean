import PomToGradle.Dependency.Basic

/-!
The two languages of build scripts, and the configurations that dependencies are declared in.
-/
namespace PomToGradle

inductive Dialect where
  | groovy
  | kotlin
deriving DecidableEq, Repr

namespace Dialect

def name : Dialect → String
  | groovy => "Groovy"
  | kotlin => "Kotlin"

/-- The dialect chosen by whether Kotlin is asked for. -/
def ofKotlin (kotlin : Bool) : Dialect := if kotlin then .kotlin else .groovy

def isKotlin : Dialect → Bool
  | groovy => false
  | kotlin => true

end Dialect

inductive Configuration where
  | implementation
  | testImplementation
  | compileOnly
deriving DecidableEq, Repr

namespace Configuration

def name : Configuration → String
  | implementation => "implementation"
  | testImplementation => "testImplementation"
  | compileOnly => "compileOnly"

def ofScope : Scope → Configuration
  | .provided => compileOnly
  | .test => testImplementation
  | .compile | .runtime | .system | .imported | .other _ => implementation

end Configuration

end PomToGradle
