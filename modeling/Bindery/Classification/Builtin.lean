import Bindery.Classification

/-! # The built-in classification

The classes of the browser framework whose interface the generator is made for, each with its role,
the name of its wrapper where that differs, and whether it is reversible and disposes of itself.
-/

namespace Bindery.Classification

/-- One row of the built-in table. -/
def listed (name : String) (role : Role) (rename : Option String)
    (isReversible disposesItself : Bool) : String × Traits :=
  (name, ⟨role, rename, isReversible, disposesItself, false⟩)

/-- The rows of the built-in table. -/
def builtinRows : List (String × Traits) := [
  listed "CefUserData" .handler none true false,
  listed "CefApp" .handler (some "CefApp") false false,
  listed "CefBrowser" .proxy none false false,
  listed "CefBrowserHost" .proxy none false false,
  listed "CefCallback" .proxy none false false,
  listed "CefClient" .handler none true false,
  listed "CefDisplayHandler" .handler none false false,
  listed "CefFrame" .proxy none false false,
  listed "CefGeolocationCallback" .proxy none false false,
  listed "CefGeolocationHandler" .handler none false false,
  listed "CefLifeSpanHandler" .handler none false false,
  listed "CefLoadHandler" .handler none false false,
  listed "CefProcessMessage" .proxy none false false,
  listed "CefProxyHandler" .handler none false false,
  listed "CefRenderProcessHandler" .handler none false false,
  listed "CefRequest" .proxy none false false,
  listed "CefPostData" .proxy none false false,
  listed "CefPostDataElement" .proxy none false false,
  listed "CefAuthCallback" .proxy none false false,
  listed "CefRequestHandler" .handler none false false,
  listed "CefResourceBundleHandler" .handler none false false,
  listed "CefResourceHandler" .handler none false true,
  listed "CefResponse" .proxy none false false,
  listed "CefSchemeHandlerFactory" .handler none false false,
  listed "CefReadHandler" .handler none false false,
  listed "CefStreamReader" .proxy none false false,
  listed "CefWriteHandler" .handler none false false,
  listed "CefStreamWriter" .proxy none false false,
  listed "CefStringVisitor" .handler none false true,
  listed "CefTask" .handler none false false,
  listed "CefV8Context" .proxy none false false,
  listed "CefV8Handler" .handler none true false,
  listed "CefV8Accessor" .handler none false false,
  listed "CefV8Exception" .proxy none false false,
  listed "CefV8Value" .proxy none false false,
  listed "CefV8StackTrace" .proxy none false false,
  listed "CefV8StackFrame" .proxy none false false,
  listed "CefBinaryValue" .proxy none false false,
  listed "CefDictionaryValue" .proxy none false false,
  listed "CefListValue" .proxy none false false,
  listed "CefXmlReader" .proxy none false false,
  listed "CefZipReader" .proxy none false false,
  listed "CefContextMenuHandler" .handler none false false,
  listed "CefContextMenuParams" .proxy none false false,
  listed "CefCommandLine" .proxy none false false,
  listed "CefCookieManager" .proxy none false false,
  listed "CefCookieVisitor" .handler none false true,
  listed "CefDOMVisitor" .handler (some "CefDomVisitor") false false,
  listed "CefDOMDocument" .proxy (some "CefDomDocument") false false,
  listed "CefDOMNode" .proxy (some "CefDomNode") false false,
  listed "CefDOMEvent" .proxy (some "CefDomEvent") false false,
  listed "CefDOMEventListener" .handler (some "CefDomEventListener") false false,
  listed "CefJSDialogCallback" .proxy none false false,
  listed "CefJSDialogHandler" .handler none false false,
  listed "CefMenuModel" .proxy none false false,
  listed "CefSchemeRegistrar" .proxy none false false,
  listed "CefWebPluginInfo" .proxy none false false,
  listed "CefWebPluginInfoVisitor" .handler none false true,
  listed "CefFocusHandler" .handler none false false,
  listed "CefKeyboardHandler" .handler none false false,
  listed "CefBrowserProcessHandler" .handler none false false,
  listed "CefURLRequest" .proxy (some "CefUrlRequest") false false,
  listed "CefURLRequestClient" .handler (some "CefUrlRequestClient") true false,
  listed "CefBeforeDownloadCallback" .proxy none false false,
  listed "CefDownloadItemCallback" .proxy none false false,
  listed "CefDownloadHandler" .handler none false false,
  listed "CefDownloadItem" .proxy none false false,
  listed "CefQuotaCallback" .proxy none false false,
  listed "CefWebPluginUnstableCallback" .handler none false false,
  listed "CefRunFileDialogCallback" .handler none false false,
  listed "CefFileDialogCallback" .proxy none false false,
  listed "CefDialogHandler" .handler none false false,
  listed "CefGetGeolocationCallback" .handler none false false,
  listed "CefTraceClient" .handler none false false,
  listed "CefRenderHandler" .handler none false false,
  listed "CefTaskRunner" .proxy none false false,
  listed "CefCompletionHandler" .handler none false false,
  listed "CefAllowCertificateErrorCallback" .proxy none false false,
  listed "CefDragData" .proxy none false false,
  listed "CefDragHandler" .handler none false false,
  listed "CefRequestContext" .proxy none false false,
  listed "CefRequestContextHandler" .handler none true false,
  listed "CefEndTracingCallback" .handler none false false,
  listed "CefCompletionCallback" .handler none false false,
  listed "CefPrintDialogCallback" .proxy none false false,
  listed "CefPrintJobCallback" .proxy none false false,
  listed "CefPrintHandler" .handler none false false,
  listed "CefPrintSettings" .proxy none false false,
  listed "CefNavigationEntryVisitor" .handler none false true,
  listed "CefNavigationEntry" .proxy none false false,
  listed "CefFindHandler" .handler none false false,
  listed "CefSSLCertPrincipal" .proxy (some "CefSslCertPrincipal") false false,
  listed "CefSSLInfo" .proxy (some "CefSslInfo") false false,
  listed "CefSetCookieCallback" .handler none false true,
  listed "CefDeleteCookiesCallback" .handler none false true,
  listed "CefRequestCallback" .proxy none false false,
  listed "CefValue" .proxy none false false,
  listed "CefPdfPrintCallback" .handler none false false,
  listed "CefRunContextMenuCallback" .proxy none false false,
  listed "CefResourceBundle" .proxy none false false,
  listed "CefResponseFilter" .handler none false true,
  listed "CefResolveCallback" .handler none false false,
  listed "CefDownloadImageCallback" .handler none false false,
  listed "CefImage" .proxy none false false,
  listed "CefMenuModelDelegate" .handler none false false,
  listed "CefRegisterCdmCallback" .handler none false false,
  listed "CefSelectClientCertificateCallback" .proxy none false false,
  listed "CefSSLStatus" .proxy (some "CefSslStatus") false false,
  listed "CefV8Interceptor" .handler none false false,
  listed "CefX509CertPrincipal" .proxy none false false,
  listed "CefX509Certificate" .proxy none false false,
  listed "CefThread" .proxy none false false,
  listed "CefWaitableEvent" .proxy none false false,
  listed "CefAccessibilityHandler" .handler none false false,
  listed "CefExtension" .proxy none false false,
  listed "CefExtensionHandler" .handler none true false,
  listed "CefGetExtensionResourceCallback" .proxy none false false,
  listed "CefServer" .proxy none false false,
  listed "CefServerHandler" .handler none false false,
  listed "CefV8ArrayBufferReleaseCallback" .handler none true false,
  listed "CefAudioHandler" .handler none false false,
  listed "CefResourceSkipCallback" .proxy none false false,
  listed "CefResourceReadCallback" .proxy none false false,
  listed "CefResourceRequestHandler" .handler none false false,
  listed "CefCookieAccessFilter" .handler none false false,
  listed "CefRegistration" .proxy none false false,
  listed "CefMediaRouter" .proxy none false false,
  listed "CefMediaObserver" .handler none false false,
  listed "CefMediaRoute" .proxy none false false,
  listed "CefMediaRouteCreateCallback" .handler none false false,
  listed "CefMediaSink" .proxy none false false,
  listed "CefMediaSource" .proxy none false false,
  listed "CefDevToolsMessageObserver" .handler none false false,
  listed "CefMediaSinkDeviceInfoCallback" .handler none false true,
  listed "CefFrameHandler" .handler none false false,
  listed "CefCommandHandler" .handler none false false
]

/-- The built-in classification. -/
def builtin : Classification := ⟨Table.ofList builtinRows⟩

end Bindery.Classification
