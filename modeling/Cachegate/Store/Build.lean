import Cachegate.Config
import Cachegate.Library.Assembly
import Cachegate.Store.Azure

/-! The stores that start-up builds, each from its own part of the configuration. -/

namespace Cachegate

inductive StoreConfig where
  | s3 (bucket region accessKey secretKey : String) (endpoint : Option String) (allowHttp : Option Bool)
  | azure (container connectionString : String)
deriving DecidableEq, Repr

/-- What is set on `AmazonS3Builder`. -/
structure AmazonS3Builder where
  bucketName : String
  region : String
  accessKeyId : String
  secretAccessKey : String
  endpoint : Option String
  allowHttp : Bool
deriving DecidableEq, Repr

/-- What is set on `MicrosoftAzureBuilder`. -/
structure MicrosoftAzureBuilder where
  account : String
  accessKey : String
  containerName : String
  endpoint : Option String
  allowHttp : Bool
deriving DecidableEq, Repr

/-- The `build` of the two builders. -/
structure StoreLibraries where
  buildS3 : AmazonS3Builder → Except String StoreId
  buildAzure : MicrosoftAzureBuilder → Except String StoreId

def buildAzureStore (libs : StoreLibraries) (storeId container connectionString : String) :
    Except ErrorChain StoreId :=
  match parseConnectionString connectionString with
  | .error err => .error ["failed to parse azure connection string for store " ++ storeId, err]
  | .ok info =>
      (libs.buildAzure
        { account := info.account
          accessKey := info.accessKey
          containerName := container
          endpoint := info.endpoint
          allowHttp := info.allowHttp }).mapError fun err => [err]

/-- The loop body of `build_stores`. -/
def buildStore (libs : StoreLibraries) (id : String) : StoreConfig → Except ErrorChain StoreId
  | .s3 bucket region accessKey secretKey endpoint allowHttp =>
      (libs.buildS3
        { bucketName := bucket
          region
          accessKeyId := accessKey
          secretAccessKey := secretKey
          endpoint
          allowHttp := allowHttp.getD false }).mapError fun err => [err]
  | .azure container connectionString => buildAzureStore libs id container connectionString

/-- `build_stores`, over the entries of the map in whatever order it lists them. -/
def buildStores (libs : StoreLibraries) (configs : List (String × StoreConfig)) :
    Except ErrorChain (String → Option StoreId) :=
  Assembly.assemble (buildStore libs) configs

end Cachegate
