/-!
# The words of the protocol

The namespaces of the elements that requests and responses are made of, the two operations a
provider answers and the two formats it answers in.
-/

namespace OlapClient.Protocol

/-- The namespace of a SOAP 1.1 envelope. -/
def soapNs : String := "http://schemas.xmlsoap.org/soap/envelope/"

/-- The SOAP 1.1 encoding style. -/
def soapEncoding : String := "http://schemas.xmlsoap.org/soap/encoding/"

/-- The namespace of XML for Analysis. -/
def xmlaNs : String := "urn:schemas-microsoft-com:xml-analysis"

/-- The namespace of a tabular result. -/
def rowsetNs : String := "urn:schemas-microsoft-com:xml-analysis:rowset"

/-- The namespace of a multidimensional result. -/
def datasetNs : String := "urn:schemas-microsoft-com:xml-analysis:mddataset"

/-- The namespace of a schema that a result carries. -/
def schemaNs : String := "http://www.w3.org/2001/XMLSchema"

/-- The namespace of the attribute that types a value. -/
def instanceNs : String := "http://www.w3.org/2001/XMLSchema-instance"

/-- The namespace of the attribute that labels a column. -/
def sqlNs : String := "urn:schemas-microsoft-com:xml-sql"

/-- The name of the axis of the members that a query is restricted to. -/
def slicerName : String := "SlicerAxis"

/-- What a request asks a provider to do. -/
inductive Operation where
  | execute
  | discover
  deriving DecidableEq, Repr

/-- The local name of the element that carries a request. -/
def Operation.requestName : Operation → String
  | .execute => "Execute"
  | .discover => "Discover"

/-- The local name of the element that carries a response. -/
def Operation.responseName : Operation → String
  | .execute => "ExecuteResponse"
  | .discover => "DiscoverResponse"

/-- The action that announces a request. -/
def Operation.action : Operation → String
  | .execute => "urn:schemas-microsoft-com:xml-analysis:Execute"
  | .discover => "urn:schemas-microsoft-com:xml-analysis:Discover"

/-- The form of a result. -/
inductive Format where
  | tabular
  | multidimensional
  deriving DecidableEq, Repr

/-- The name of a format. -/
def Format.name : Format → String
  | .tabular => "Tabular"
  | .multidimensional => "Multidimensional"

end OlapClient.Protocol
