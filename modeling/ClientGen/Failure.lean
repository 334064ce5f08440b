import ClientGen.Disk.Basic

namespace ClientGen

def DiskFault.message : DiskFault → String
  | .noSuchEntry => "No such file or directory (os error 2)"
  | .notADirectory => "Not a directory (os error 20)"
  | .isADirectory => "Is a directory (os error 21)"
  | .alreadyExists => "File exists (os error 17)"
  | .notEmpty => "Directory not empty (os error 39)"
  | .nameTooLong => "File name too long (os error 36)"
  | .nulInPath => "file name contained an unexpected NUL byte"
  | .invalidArgument => "Invalid argument (os error 22)"
  | .notText => "stream did not contain valid UTF-8"

inductive DocumentFault where
  | unreadable
  | notAnObject
  deriving DecidableEq, Repr, Inhabited

def DocumentFault.message : DocumentFault → String
  | .unreadable => "content is neither valid JSON nor YAML"
  | .notAnObject => "document root is not an object"

inductive Origin where
  | file
  | web
  deriving DecidableEq, Repr, Inhabited

def Origin.preposition : Origin → String
  | .file => "at"
  | .web => "from"

inductive TemplateFault where
  | directoryNotFound (directory : Path)
  | contextNotAnObject (template : String)
  | notFound (template : String)
  | notRendered (template : String)
  deriving DecidableEq, Repr, Inhabited

def TemplateFault.message : TemplateFault → String
  | .directoryNotFound directory => "Template directory not found: " ++ directory
  | .contextNotAnObject template =>
    "Failed to serialize context for " ++ template ++
      ": Creating a Context from a Value/Serialize requires it being a JSON object"
  | .notFound template =>
    "Failed to render template '" ++ template ++ "': Template '" ++ template ++ "' not found"
  | .notRendered template =>
    "Failed to render template '" ++ template ++ "': Failed to render '" ++ template ++ "'"

inductive UrlFault where
  | emptyHost
  | invalidPort
  | invalidIpv4
  | invalidIpv6
  | invalidDomain
  deriving DecidableEq, Repr, Inhabited

def UrlFault.message : UrlFault → String
  | .emptyHost => "empty host"
  | .invalidPort => "invalid port number"
  | .invalidIpv4 => "invalid IPv4 address"
  | .invalidIpv6 => "invalid IPv6 address"
  | .invalidDomain => "invalid international domain name"

inductive ConfigFault where
  | missingFields (fields : List String)
  | invalidUrl (url : String) (fault : UrlFault)
  | unsupportedFormat (path : Path)
  deriving DecidableEq, Repr, Inhabited

def ConfigFault.message : ConfigFault → String
  | .missingFields fields => "missing required field(s): " ++ ", ".intercalate fields
  | .invalidUrl url fault => "invalid swagger_url '" ++ url ++ "': " ++ fault.message
  | .unsupportedFormat path => "unsupported config file format: " ++ path

inductive FetchFault where
  | badUrl (fault : UrlFault)
  -- There is no response, or its text cannot be read.
  | broken (reason : String)
  | status (shown : String)
  deriving DecidableEq, Repr, Inhabited

def FetchFault.message : FetchFault → String
  | .badUrl fault => "builder error: " ++ fault.message
  | .broken reason => reason
  | .status shown => "HTTP " ++ shown

inductive Failure where
  | disk (fault : DiskFault)
  | yaml
  | json
  | toml
  | fetch (url : String) (fault : FetchFault)
  | document (origin : Origin) (location : String) (fault : DocumentFault)
  | templateText
  | template (fault : TemplateFault)
  | config (fault : ConfigFault)
  deriving DecidableEq, Repr, Inhabited

namespace Failure

def message : Failure → String
  | .disk fault => "I/O error: " ++ fault.message
  | .yaml => "YAML parsing error"
  | .json => "JSON parsing error"
  | .toml => "TOML parsing error"
  | .fetch url fault => "Failed to fetch " ++ url ++ ": " ++ fault.message
  | .document origin location fault =>
    "OpenAPI error: Failed to parse document " ++ origin.preposition ++ " " ++ location ++ ": " ++
      fault.message
  | .templateText => "Template engine error"
  | .template fault => "Template error: " ++ fault.message
  | .config fault => "Configuration error: " ++ fault.message

def chain : Failure → List String
  | .disk fault => [(Failure.disk fault).message, fault.message]
  | failure => [failure.message]

end Failure

end ClientGen
