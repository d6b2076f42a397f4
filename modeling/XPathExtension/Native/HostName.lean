/-!
The names that the host gives to its types. They stand in messages and plans, and the part before
the first double colon is the component that declares the type.
-/

namespace XPathExtension.HostName

def string : String := "alloc::string::String"

def qname : String := "platynui_xpath_bind::model::QName"

def dateTime : String := "chrono::datetime::DateTime<chrono::offset::fixed::FixedOffset>"

def date : String := "chrono::naive::date::NaiveDate"

def treeNode : String := "platynui_xpath_bind::simple_node::SimpleNode"

def node : String := "platynui_xpath_bind::native::Node<" ++ treeNode ++ ">"

def item : String := "platynui_xpath_bind::xdm::XdmItem<" ++ treeNode ++ ">"

def list (element : String) : String := "alloc::vec::Vec<" ++ element ++ ">"

def option (element : String) : String := "core::option::Option<" ++ element ++ ">"

def result (value failure : String) : String :=
  "core::result::Result<" ++ value ++ ", " ++ failure ++ ">"

def shared (resource : String) : String := "alloc::sync::Arc<" ++ resource ++ ">"

def processor : String := shared "dyn platynui_xpath_bind::dependency::Processor"

def itemFactory : String :=
  shared ("dyn platynui_xpath_bind::dependency::ItemFactory<" ++ treeNode ++ ">")

def resolver : String :=
  shared ("dyn platynui_xpath_bind::dependency::NodeResolver<" ++ treeNode ++ ">")

def bindingComponent : String := "platynui_xpath_bind"

end XPathExtension.HostName
