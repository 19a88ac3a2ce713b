/-!
**What can be wrong with a stack or a build script.**

A `Fault` is one cause of refusal. It belongs to one of seven classes: a malformed value, a missing
field, a name taken twice, a reference to something that is not there, a number out of range, an
operation at the wrong moment, or a file that cannot be read or written.

* `EntityKind`: the kinds of named things a fault can point at.
* `Form`, `Rule`, `Defect`: why a value is malformed.
* `Excess`: which bound a number breaks.
* `Obstacle`: why an operation cannot run now.
* `Fault.message`: the only place where the wording of a fault is written.
-/

namespace ContainerStack

/-- The kinds of named things that a fault can point at. -/
inductive EntityKind where
  | service
  | network
  | volume
  | secret
  | config
  | stage
  | instruction
  | hostPort
  | mainService
  | file
  deriving DecidableEq, Repr

/-- The noun for a kind of thing. -/
def EntityKind.noun : EntityKind → String
  | .service => "service"
  | .network => "network"
  | .volume => "volume"
  | .secret => "secret"
  | .config => "config"
  | .stage => "stage"
  | .instruction => "instruction"
  | .hostPort => "host port"
  | .mainService => "main service"
  | .file => "file"

/-- The written forms that a value can fail to have. -/
inductive Form where
  | variableName
  | labelKey
  | optionKey
  | duration
  | byteSize
  | driverOption
  | decimalNumber
  | addressBlock
  | ipAddress
  | prefixLength
  | userNumber
  | wholeNumber
  | version
  | accountName
  deriving DecidableEq, Repr

/-- How a form is described to the reader of a fault. -/
def Form.description : Form → String
  | .variableName => "a valid variable name"
  | .labelKey => "a valid label key"
  | .optionKey => "a valid option key"
  | .duration => "a duration (e.g. 30s, 1m30s)"
  | .byteSize => "a byte size (e.g. 512M, 2g)"
  | .driverOption => "a valid option for this driver"
  | .decimalNumber => "a decimal number"
  | .addressBlock => "in CIDR form (a.b.c.d/n)"
  | .ipAddress => "an IP address"
  | .prefixLength => "a prefix length"
  | .userNumber => "a numeric uid"
  | .wholeNumber => "a whole number"
  | .version => "a version"
  | .accountName => "a valid account name"

/-- The rules that a value of the right kind can still break. -/
inductive Rule where
  | absolutePath
  | noWhitespace
  | entityName
  | comparison
  | userOrUserGroup
  | containerOrAlias
  | absoluteExport
  deriving DecidableEq, Repr

/-- What a rule asks for. -/
def Rule.demand : Rule → String
  | .absolutePath => "be an absolute path"
  | .noWhitespace => "not contain whitespace"
  | .entityName =>
    "start with a letter or digit and contain only letters, digits, '_', '.' or '-'"
  | .comparison => "compare with == or !="
  | .userOrUserGroup => "be user or user:group"
  | .containerOrAlias => "be container or container:alias"
  | .absoluteExport => "be an absolute export path"

/-- Why a value is malformed. -/
inductive Defect where
  /-- A word outside a closed list; the list is empty where it is not told. -/
  | unknownWord (noun value : String) (expected : List String)
  | isNot (value : String) (form : Form)
  | breaks (value : String) (rule : Rule)
  | notBoolean (value : String)
  /-- A line with a line break or control character; `quoted` is the line made visible. -/
  | notOneLine (quoted : String)
  | timesWithoutOnFailure (policy : String)
  | replicasInGlobalMode
  | disabledHealthcheckSettings
  | publishedInternalOnly (port : Nat)
  | namedBind
  | anonymousReadOnly
  | imageBesideBuild (service : String)
  | buildBesideImage (service : String)
  | selfDependency (service : String)
  | networksBesideMode (service : String)
  | modeBesideNetworks (service : String)
  | ownNetworkStack (service : String)
  | repeatedSubnet (subnet : String)
  | settingsBesideExternal (kind : EntityKind) (name : String)
  | isExternal (kind : EntityKind) (name : String)
  | tmpfsDriver (driver : String)
  | sizeGivenTwice
  | sizeWithoutTmpfs
  | fileBesideExternal
  deriving DecidableEq, Repr

/-- Which bound a number breaks. -/
inductive Excess where
  | restartTimes (times : Nat)
  | notPositiveInteger (value : String)
  | notAboveZero (value : String)
  | belowOne
  | port (number : Nat)
  | exposedPort (number : Nat)
  | prefixLength (length limit : Nat)
  | gatewayOutside (gateway subnet : String)
  deriving DecidableEq, Repr

/-- Why an operation cannot run now. -/
inductive Obstacle where
  | alreadyRendering (target : String)
  | noServices (stack : String)
  | noProcess (stage : String)
  | noStages
  | unregistered (kind : EntityKind) (name : String)
  | stopped (reason : String)
  deriving DecidableEq, Repr

/-- One cause of refusal. -/
inductive Fault where
  | malformed (subject : String) (defect : Defect)
  /-- A document that cannot be read as a definition at all. -/
  | unreadable (subject : String)
  | missing (context field : String)
  | duplicate (kind : EntityKind) (name : String)
  | dangling (owner : String) (kind : EntityKind) (name : String)
  | outOfRange (subject : String) (excess : Excess)
  | obstructed (obstacle : Obstacle)
  | io (detail : String)
  deriving DecidableEq, Repr

/-- A list of words as a sentence writes it: commas between them and `or` before the last. -/
def alternativesText : List String → String
  | [] => ""
  | [word] => word
  | [first, second] => first ++ " or " ++ second
  | first :: rest => first ++ ", " ++ alternativesText rest

/-- The wording of a defect. -/
def Defect.message : Defect → String
  | .unknownWord noun value [] => s!"unknown {noun} '{value}'"
  | .unknownWord noun value expected =>
    let words := alternativesText expected
    s!"unknown {noun} '{value}' (expected {words})"
  | .isNot value form => s!"'{value}' is not " ++ form.description
  | .breaks value rule => s!"'{value}' must " ++ rule.demand
  | .notBoolean value => s!"expected true or false, got '{value}'"
  | .notOneLine quoted => quoted ++ " must not contain line breaks or control characters"
  | .timesWithoutOnFailure policy => s!"'times' is only valid with on-failure, not '{policy}'"
  | .replicasInGlobalMode => "replicas cannot be combined with global mode"
  | .disabledHealthcheckSettings => "a disabled healthcheck cannot carry other settings"
  | .publishedInternalOnly port => s!"internal-only port {port} cannot bind a host port"
  | .namedBind => "'name' and 'host_path' are mutually exclusive"
  | .anonymousReadOnly => "anonymous volumes do not take 'read_only'"
  | .imageBesideBuild service =>
    s!"service '{service}' already has a build; image and build are mutually exclusive"
  | .buildBesideImage service =>
    s!"service '{service}' already has an image; image and build are mutually exclusive"
  | .selfDependency service => s!"service '{service}' cannot depend on itself"
  | .networksBesideMode service =>
    s!"service '{service}' has a network_mode; networks and network_mode are mutually exclusive"
  | .modeBesideNetworks service =>
    s!"service '{service}' joins networks; networks and network_mode are mutually exclusive"
  | .ownNetworkStack service => s!"service '{service}' cannot share its own network stack"
  | .repeatedSubnet subnet => s!"subnet {subnet} listed twice"
  | .settingsBesideExternal kind name =>
    let noun := kind.noun
    s!"{noun} '{name}' already has driver settings; external {noun}s cannot carry them"
  | .isExternal kind name =>
    let noun := kind.noun
    s!"{noun} '{name}' is external"
  | .tmpfsDriver driver => s!"tmpfs volumes cannot use driver '{driver}'"
  | .sizeGivenTwice => "set either 'size' or driver_opts.size, not both"
  | .sizeWithoutTmpfs => "'size' only applies to tmpfs volumes"
  | .fileBesideExternal => "'file' and 'external' are mutually exclusive"

/-- The wording of a broken bound. -/
def Excess.message : Excess → String
  | .restartTimes times => s!"{times} is outside 1..=10"
  | .notPositiveInteger value => s!"'{value}' must be a positive integer"
  | .notAboveZero value => s!"'{value}' must be greater than zero"
  | .belowOne => "must be at least 1"
  | .port number => s!"{number} is outside 1..=65535"
  | .exposedPort number => s!"port {number} is outside 1-65535"
  | .prefixLength length limit => s!"prefix /{length} exceeds /{limit}"
  | .gatewayOutside gateway subnet => s!"{gateway} is outside subnet {subnet}"

/-- The wording of an obstacle. -/
def Obstacle.message : Obstacle → String
  | .alreadyRendering target => s!"{target} is already being rendered"
  | .noServices stack => s!"stack '{stack}' has no services to render"
  | .noProcess stage => s!"stage '{stage}' has neither an entrypoint nor a command"
  | .noStages => "template has no stages"
  | .unregistered kind name => kind.noun ++ s!" '{name}' is not registered"
  | .stopped reason => reason

/-- The wording of a fault. -/
def Fault.message : Fault → String
  | .malformed subject defect => s!"Invalid {subject}: " ++ defect.message
  | .unreadable subject => s!"Invalid {subject}"
  | .missing context field => s!"Missing required field '{field}' in {context}"
  | .duplicate kind name => "Duplicate " ++ kind.noun ++ s!": {name}"
  | .dangling owner kind name =>
    s!"{owner} references unknown " ++ kind.noun ++ s!" '{name}'"
  | .outOfRange subject excess => s!"{subject} out of range: " ++ excess.message
  | .obstructed obstacle => "Invalid state: " ++ obstacle.message
  | .io detail => s!"IO error: {detail}"

end ContainerStack
